import SchemaSeed.Text.Expression.Quoted
import SchemaSeed.Text.Expression.Tree

/-! The grammar of expressions, as data.  A rule lists alternatives, of which the first
that matches is taken.  Some rules only find out what is wrong; they are tried where an
expression cannot be read without them.  Lists in square brackets do not occur. -/

namespace SchemaSeed

namespace Expression

inductive Rule
  | whole | field
  | expressions | expression | plainExpression
  | yielding | starExpressions | starExpression | starNamed | starNamedList
  | assignment | named
  | disjunction | conjunction | inversion | comparison | comparisonPart
  | union | exclusion | intersection | shift | sum | term | factor | power | awaited
  | primary | atom | texts | group | tuple | set | dictionary | entries | entry | pair
  | clauses | clause | generator | setComprehension | dictionaryComprehension
  | arguments | argumentList | argument | namedArguments | namedOrStar | namedOrDoubleStar
  | starArgument
  | targets | target | plainTarget | targetAtom | targetTuple | targetPrimary | targetFollows
  | function | parameters | parameterList | slashPlain | slashDefault | plainParameter
  | defaultParameter | anyParameter | defaultValue | starParameters | doubleStarParameter
  | strayExpression | bareCall | wrongAssignment | wrongArguments | wrongNamed
  | wrongComprehension | wrongDictionaryComprehension | wrongGroup | wrongEntries | wrongEntry
  | wrongTarget | wrongParameters | defaultsBefore | wrongStarParameters
  | wrongDoubleStarParameter | wrongDefault
deriving Repr, DecidableEq, Hashable

namespace Rule

/-- Whether a rule only finds out what is wrong. -/
def isDiagnostic : Rule → Bool
  | strayExpression | bareCall | wrongAssignment | wrongArguments | wrongNamed
  | wrongComprehension | wrongDictionaryComprehension | wrongGroup | wrongTarget
  | wrongParameters | wrongStarParameters | wrongDoubleStarParameter | wrongDefault => true
  | _ => false

/-- Whether the outcome of a rule at a place is kept.  It is not looked for a second time
then, even where other rules may be tried by now. -/
def isKept : Rule → Bool
  | expression | starExpression | disjunction | conjunction | inversion | union | exclusion
  | intersection | shift | sum | term | factor | awaited | primary | texts | arguments | target
  | plainTarget | targetPrimary | wrongAssignment => true
  | _ => false

end Rule

/-- What a rule is made of.  A separated list has one member at least. -/
inductive Item
  | rule (rule : Rule)
  | mark (symbol : Text)
  | word (word : Text)
  | name
  /-- A name that may begin a word which stands for a clause in other places. -/
  | softName
  | number
  | quoted
  | lineEnd
  | finish
  | optional (item : Item)
  | many (item : Item)
  | oneOrMore (item : Item)
  | separated (item : Item)
  | anyOf (items : List Item)
  | sequence (items : List Item)
  | notBefore (item next : Item)
  | ahead (item : Item)
  | notAhead (item : Item)
  /-- After this no other alternative is tried. -/
  | committed

/-- Where an alternative has matched: the line in which it starts and the number of
brackets that are open after it; and how an expression within a text is read. -/
structure Site where
  line : Nat
  depth : Nat
  readField : Text → Except Problem Unit

/-- What comes of the parts of an alternative.  Without a tree the whole rule fails. -/
abbrev Build := Site → List Tree → Except Problem (Option Tree)

structure Alternative where
  items : List Item
  build : Build

/-- Alternatives, or a first part with any number of continuations, to each of which what
has been read so far is the first part. -/
inductive Body
  | choice (alternatives : List Alternative)
  | chain (first continuations : List Alternative)

/-! What alternatives build. -/

mutual
/-- The nodes within a part, from left to right. -/
def Tree.nodes : Tree → List Tree
  | .absent | .token _ => []
  | .several members => nodesOf members
  | .node kind line parts => [.node kind line parts]

def Tree.nodesOf : List Tree → List Tree
  | [] => []
  | part :: rest => part.nodes ++ nodesOf rest
end

def pick (index : Nat) : Build :=
  fun _ parts => .ok parts[index]?

def together : Build :=
  fun _ parts => .ok (some (.several (Tree.nodesOf parts)))

def make (kind : Kind) : Build :=
  fun site parts => .ok (some (.node kind site.line (Tree.nodesOf parts)))

def refuse (problem : Problem) : Build :=
  fun _ _ => .error problem

/-- Refuses with a problem that names the first node. -/
def refuseFirst (problem : Text → Problem) : Build :=
  fun _ parts =>
    match Tree.nodesOf parts with
    | node :: _ => .error (problem node.description)
    | [] => .ok none

def Tree.word? : Tree → Option Text
  | .token ⟨.word word, _, _⟩ => some word
  | .node (.name word) _ _ => some word
  | _ => none

def Tree.numeral? : Tree → Option Numeral
  | .token ⟨.number numeral, _, _⟩ => some numeral
  | _ => none

mutual
/-- The texts in quotes within a part, from left to right, with the letters before them. -/
def Tree.quoted : Tree → List (Text × Text)
  | .token ⟨.quoted letters content, _, _⟩ => [(letters, content)]
  | .several members => quotedOf members
  | _ => []

def Tree.quotedOf : List Tree → List (Text × Text)
  | [] => []
  | part :: rest => part.quoted ++ quotedOf rest
end

def makeName : Build :=
  fun site parts => .ok ((parts.head?.bind Tree.word?).map fun word =>
    .node (.name word) site.line [])

def makeNamed : Build :=
  fun site parts => .ok ((parts.head?.bind Tree.word?).map fun word =>
    .node (.constant (.named word)) site.line [])

def makeNumber : Build :=
  fun site parts =>
    match parts.head?.bind Tree.numeral? with
    | some (.tooLong digits) => .error (.numeralTooLong digits)
    | numeral => .ok (numeral.map fun numeral => .node (.constant (.number numeral)) site.line [])

/-- Texts side by side are one.  The first of them decides whether they are bytes. -/
def makeTexts : Build :=
  fun site parts =>
    let texts := Tree.quotedOf parts
    let isBytes := texts.head?.any fun (letters, _) => letters.elem 'b'
    let kind := if texts.any fun (letters, _) => letters.elem 'f' then Kind.formattedText
      else .constant .text
    (checkTexts site.readField isBytes texts).map fun _ => some (.node kind site.line [])

def Tree.isMembership : Tree → Bool
  | .node (.comparison isMembership) _ _ => isMembership
  | _ => false

def makeComparison : Build :=
  fun site parts =>
    let nodes := Tree.nodesOf parts
    let isMembership := nodes[1]?.any Tree.isMembership
    .ok (some (.node (.comparison isMembership) site.line (nodes.take 1)))

/-- An entry without a key stands for those of a dictionary. -/
def makeUnpacked : Build :=
  fun site parts => .ok (some (.node .entry site.line (.absent :: Tree.nodesOf parts)))

/-- Words that were once called without brackets. -/
def callWords : List Text := ["print", "exec"]

def isCallWord (tree : Tree) : Bool :=
  tree.word?.any callWords.contains

/-- Two expressions side by side lack a comma if they stand in brackets. -/
def refuseNeighbours : Build :=
  fun site parts =>
    if (parts[1]?).any isCallWord || site.depth = 0 then .ok none else .error .missingComma

def refuseBareCall : Build :=
  fun _ parts =>
    match parts.head?.bind Tree.word? with
    | some word => if callWords.contains word then .error (.missingParentheses word) else .ok none
    | none => .ok none

def isUnpackedArgument : Tree → Bool
  | .node (.named isUnpacked) _ _ => isUnpacked
  | _ => false

def isNamedArgument : Tree → Bool
  | .node (.named _) _ _ => true
  | _ => false

def argumentsOf : Tree → List Tree
  | .node .arguments _ parts => parts
  | _ => []

/-- A generator that follows another argument needs brackets. -/
def refuseGenerator : Build :=
  fun _ parts =>
    let plain := (parts.flatMap argumentsOf).filter (!isNamedArgument ·)
    if plain.length ≤ 1 then .ok none else .error (.badArguments .bareGenerator)

def refusePositional : Build :=
  fun _ parts =>
    .error (.badArguments
      (if (parts.head?.toList.flatMap argumentsOf).any isUnpackedArgument then
        .positionalAfterUnpacked
      else .positionalAfterNamed))

def refuseAssigned : Build :=
  fun _ parts =>
    match parts.head?.bind Tree.word? with
    | some word => .error (.badArguments (.assigned word))
    | none => .ok none

/-- Nothing can be assigned to some part of what a clause runs over. -/
def refuseTarget : Build :=
  fun _ parts =>
    match (Tree.nodesOf parts).head?.bind Tree.obstacle? with
    | some obstacle => .error (.assignmentTo obstacle.description)
    | none => .ok none

/-! Items that recur. -/

namespace Item

def comma : Item := .mark ","

/-- What may follow a parameter. -/
def parameterEnd : Item := .anyOf [.mark ",", .ahead (.mark ":")]

/-- Members with commas between them, and possibly one more comma. -/
def listOf (rule : Rule) : List Item := [.separated (.rule rule), .optional comma]

def value : Item := .notBefore (.rule .expression) (.mark ":=")

def opening : Item := .anyOf [.mark "(", .mark "\x7b"]

end Item

/-- One operation of a level, with the operand after it. -/
def operation (kind : Kind) (symbol : Text) (operand : Rule) : Alternative :=
  ⟨[.mark symbol, .rule operand], make kind⟩

def only (rule : Rule) : Alternative :=
  ⟨[.rule rule], pick 0⟩

/-- Operands of one level, grouped to the left. -/
def level (operand : Rule) (kind : Kind) (symbols : List Text) : Body :=
  .chain [only operand] (symbols.map fun symbol => operation kind symbol operand)

def compared (isMembership : Bool) (signs : List Item) : Alternative :=
  ⟨signs ++ [.rule .union], make (.comparison isMembership)⟩

open Item in
def Rule.body : Rule → Body
  | whole => .choice [⟨[.rule expressions, .many .lineEnd, .finish], pick 0⟩]
  | field => .choice [only starExpressions]
  | expressions => .choice [
      ⟨[.rule expression, .oneOrMore (.sequence [comma, .rule expression]), .optional comma],
        make .tuple⟩,
      ⟨[.rule expression, comma], make .tuple⟩,
      only expression]
  | expression => .choice [
      only strayExpression,
      only bareCall,
      ⟨[.rule disjunction, .word "if", .rule disjunction, .word "else", .rule expression],
        make .conditional⟩,
      only disjunction,
      only function]
  | plainExpression => .choice [
      ⟨[.rule disjunction, .word "if", .rule disjunction, .word "else", .rule expression],
        make .conditional⟩,
      only disjunction,
      only function]
  | yielding => .choice [
      ⟨[.word "yield", .word "from", .rule expression], make .yieldingFrom⟩,
      ⟨[.word "yield", .optional (.rule starExpressions)], make .yielding⟩]
  | starExpressions => .choice [
      ⟨[.rule starExpression, .oneOrMore (.sequence [comma, .rule starExpression]),
        .optional comma], make .tuple⟩,
      ⟨[.rule starExpression, comma], make .tuple⟩,
      only starExpression]
  | starExpression => .choice [
      ⟨[.mark "*", .rule union], make .star⟩,
      only expression]
  | starNamedList => .choice [⟨listOf starNamed, together⟩]
  | starNamed => .choice [
      ⟨[.mark "*", .rule union], make .star⟩,
      only named]
  | assignment => .choice [
      ⟨[.name, .mark ":=", .committed, .rule expression], make .assignment⟩]
  | named => .choice [
      only assignment,
      only wrongAssignment,
      ⟨[value], pick 0⟩]
  | disjunction => .choice [
      ⟨[.rule conjunction, .oneOrMore (.sequence [.word "or", .rule conjunction])],
        make .boolean⟩,
      only conjunction]
  | conjunction => .choice [
      ⟨[.rule inversion, .oneOrMore (.sequence [.word "and", .rule inversion])], make .boolean⟩,
      only inversion]
  | inversion => .choice [
      ⟨[.word "not", .rule inversion], make (.signed false)⟩,
      only comparison]
  | comparison => .choice [
      ⟨[.rule union, .oneOrMore (.rule comparisonPart)], makeComparison⟩,
      only union]
  | comparisonPart => .choice [
      compared false [.mark "=="],
      compared false [.mark "!="],
      compared false [.mark "<="],
      compared false [.mark "<"],
      compared false [.mark ">="],
      compared false [.mark ">"],
      compared false [.word "not", .word "in"],
      compared true [.word "in"],
      compared false [.word "is", .word "not"],
      compared false [.word "is"]]
  | union => level exclusion .product ["|"]
  | exclusion => level intersection .product ["^"]
  | intersection => level shift .product ["&"]
  | shift => level sum .product ["<<", ">>"]
  | sum => level term .sum ["+", "-"]
  | term => level factor .product ["*", "/", "//", "%", "@"]
  | factor => .choice [
      ⟨[.mark "+", .rule factor], make (.signed true)⟩,
      ⟨[.mark "-", .rule factor], make (.signed true)⟩,
      ⟨[.mark "~", .rule factor], make (.signed false)⟩,
      only power]
  | power => .choice [
      ⟨[.rule awaited, .mark "**", .rule factor], make .product⟩,
      only awaited]
  | awaited => .choice [
      ⟨[.word "await", .rule primary], make .awaiting⟩,
      only primary]
  | primary => .chain [only atom] [
      ⟨[.mark ".", .name], make .attribute⟩,
      ⟨[.rule generator], make .call⟩,
      ⟨[.mark "(", .optional (.rule arguments), .mark ")"], make .call⟩]
  | atom => .choice [
      ⟨[.name], makeName⟩,
      ⟨[.word "True"], makeNamed⟩,
      ⟨[.word "False"], makeNamed⟩,
      ⟨[.word "None"], makeNamed⟩,
      ⟨[.ahead .quoted, .rule texts], pick 1⟩,
      ⟨[.number], makeNumber⟩,
      ⟨[.ahead (.mark "("), .anyOf [.rule tuple, .rule group, .rule generator]], pick 1⟩,
      ⟨[.ahead (.mark "\x7b"), .anyOf [.rule dictionary, .rule set,
        .rule dictionaryComprehension, .rule setComprehension]], pick 1⟩,
      ⟨[.mark "..."], make (.constant .ellipsis)⟩]
  | texts => .choice [⟨[.oneOrMore .quoted], makeTexts⟩]
  | group => .choice [
      ⟨[.mark "(", .anyOf [.rule yielding, .rule named], .mark ")"], pick 1⟩,
      only wrongGroup]
  | tuple => .choice [
      ⟨[.mark "(",
        .optional (.sequence [.rule starNamed, comma, .optional (.rule starNamedList)]),
        .mark ")"], make .tuple⟩]
  | set => .choice [⟨[.mark "\x7b", .rule starNamedList, .mark "\x7d"], make .set⟩]
  | dictionary => .choice [
      ⟨[.mark "\x7b", .optional (.rule entries), .mark "\x7d"], make .dictionary⟩,
      ⟨[.mark "\x7b", .rule wrongEntries, .mark "\x7d"], pick 1⟩]
  | entries => .choice [⟨listOf entry, together⟩]
  | entry => .choice [
      ⟨[.mark "**", .rule union], makeUnpacked⟩,
      only pair]
  | pair => .choice [⟨[.rule expression, .mark ":", .rule expression], make .entry⟩]
  | clauses => .choice [⟨[.oneOrMore (.rule clause)], together⟩]
  | clause => .choice [
      ⟨[.word "async", .word "for", .rule targets, .word "in", .committed, .rule disjunction,
        .many (.sequence [.word "if", .rule disjunction])], together⟩,
      ⟨[.word "for", .rule targets, .word "in", .committed, .rule disjunction,
        .many (.sequence [.word "if", .rule disjunction])], together⟩,
      only wrongTarget]
  | generator => .choice [
      ⟨[.mark "(", .anyOf [.rule assignment, value], .rule clauses, .mark ")"], make .generator⟩,
      only wrongComprehension]
  | setComprehension => .choice [
      ⟨[.mark "\x7b", .rule named, .rule clauses, .mark "\x7d"], make .setComprehension⟩,
      only wrongComprehension]
  | dictionaryComprehension => .choice [
      ⟨[.mark "\x7b", .rule pair, .rule clauses, .mark "\x7d"], make .dictionaryComprehension⟩,
      only wrongDictionaryComprehension]
  | arguments => .choice [
      ⟨[.rule argumentList, .optional comma, .ahead (.mark ")")], pick 0⟩,
      only wrongArguments]
  | argumentList => .choice [
      ⟨[.separated (.rule argument), .optional (.sequence [comma, .rule namedArguments])],
        make .arguments⟩,
      ⟨[.rule namedArguments], make .arguments⟩]
  | argument => .choice [
      only starArgument,
      ⟨[.notBefore (.anyOf [.rule assignment, value]) (.mark "=")], pick 0⟩]
  | namedArguments => .choice [
      ⟨[.separated (.rule namedOrStar), comma, .separated (.rule namedOrDoubleStar)], together⟩,
      ⟨[.separated (.rule namedOrStar)], together⟩,
      ⟨[.separated (.rule namedOrDoubleStar)], together⟩]
  | namedOrStar => .choice [
      only wrongNamed,
      ⟨[.name, .mark "=", .rule expression], make (.named false)⟩,
      only starArgument]
  | namedOrDoubleStar => .choice [
      only wrongNamed,
      ⟨[.name, .mark "=", .rule expression], make (.named false)⟩,
      ⟨[.mark "**", .rule expression], make (.named true)⟩]
  | starArgument => .choice [
      ⟨[.mark "*", .rule expression], make .star⟩,
      ⟨[.mark "*"], refuse (.badArguments .bareStar)⟩]
  | targets => .choice [
      ⟨[.notBefore (.rule target) comma], pick 0⟩,
      ⟨[.rule target, .many (.sequence [comma, .rule target]), .optional comma], make .tuple⟩]
  | target => .choice [
      ⟨[.mark "*", .notAhead (.mark "*"), .rule target], make .star⟩,
      only plainTarget]
  | plainTarget => .choice [
      ⟨[.rule targetPrimary, .mark ".", .name, .notAhead (.rule targetFollows)], make .attribute⟩,
      only targetAtom]
  | targetAtom => .choice [
      ⟨[.name], makeName⟩,
      ⟨[.mark "(", .rule plainTarget, .mark ")"], pick 1⟩,
      ⟨[.mark "(", .optional (.rule targetTuple), .mark ")"], make .tuple⟩]
  | targetTuple => .choice [
      ⟨[.rule target, .oneOrMore (.sequence [comma, .rule target]), .optional comma], together⟩,
      ⟨[.rule target, comma], together⟩]
  | targetPrimary => .chain [⟨[.rule atom, .ahead (.rule targetFollows)], pick 0⟩] [
      ⟨[.mark ".", .name, .ahead (.rule targetFollows)], make .attribute⟩,
      ⟨[.rule generator, .ahead (.rule targetFollows)], make .call⟩,
      ⟨[.mark "(", .optional (.rule arguments), .mark ")", .ahead (.rule targetFollows)],
        make .call⟩]
  | targetFollows => .choice [⟨[.anyOf [.mark "(", .mark "."]], pick 0⟩]
  | function => .choice [
      ⟨[.word "lambda", .optional (.rule parameters), .mark ":", .rule expression],
        make .function⟩]
  | parameters => .choice [only wrongParameters, only parameterList]
  | parameterList => .choice [
      ⟨[.rule slashPlain, .many (.rule plainParameter), .many (.rule defaultParameter),
        .optional (.rule starParameters)], together⟩,
      ⟨[.rule slashDefault, .many (.rule defaultParameter), .optional (.rule starParameters)],
        together⟩,
      ⟨[.oneOrMore (.rule plainParameter), .many (.rule defaultParameter),
        .optional (.rule starParameters)], together⟩,
      ⟨[.oneOrMore (.rule defaultParameter), .optional (.rule starParameters)], together⟩,
      ⟨[.rule starParameters], together⟩]
  | slashPlain => .choice [
      ⟨[.oneOrMore (.rule plainParameter), .mark "/", parameterEnd], together⟩]
  | slashDefault => .choice [
      ⟨[.many (.rule plainParameter), .oneOrMore (.rule defaultParameter), .mark "/",
        parameterEnd], together⟩]
  | plainParameter => .choice [⟨[.name, parameterEnd], together⟩]
  | defaultParameter => .choice [⟨[.name, .rule defaultValue, parameterEnd], together⟩]
  | anyParameter => .choice [
      ⟨[.name, .optional (.rule defaultValue), parameterEnd], together⟩]
  | defaultValue => .choice [
      ⟨[.mark "=", .rule expression], together⟩,
      only wrongDefault]
  | starParameters => .choice [
      only wrongStarParameters,
      ⟨[.mark "*", .rule plainParameter, .many (.rule anyParameter),
        .optional (.rule doubleStarParameter)], together⟩,
      ⟨[.mark "*", comma, .oneOrMore (.rule anyParameter),
        .optional (.rule doubleStarParameter)], together⟩,
      only doubleStarParameter]
  | doubleStarParameter => .choice [
      only wrongDoubleStarParameter,
      ⟨[.mark "**", .rule plainParameter], together⟩]
  | strayExpression => .choice [
      ⟨[.notAhead (.anyOf [.sequence [.name, .quoted], .softName]), .rule disjunction,
        .rule plainExpression], refuseNeighbours⟩,
      ⟨[.rule disjunction, .word "if", .rule disjunction,
        .notAhead (.anyOf [.word "else", .mark ":"])], refuse .noAlternative⟩]
  | bareCall => .choice [
      ⟨[.name, .notAhead (.mark "("), .rule starExpressions], refuseBareCall⟩]
  | wrongAssignment => .choice [
      ⟨[.rule expression, .mark ":=", .rule expression], refuseFirst .namedAssignmentTo⟩,
      ⟨[.name, .mark "=", .rule union, .notAhead (.anyOf [.mark "=", .mark ":="])],
        refuse .assignment⟩,
      ⟨[.notAhead (.anyOf [.rule tuple, .rule generator, .word "True", .word "None",
        .word "False"]), .rule union, .mark "=", .rule union,
        .notAhead (.anyOf [.mark "=", .mark ":="])], refuseFirst .assignmentHere⟩]
  | wrongArguments => .choice [
      ⟨[.anyOf [.sequence [.separated (.rule argument), comma, .rule namedArguments],
        .rule namedArguments], comma, .separated (.notBefore (.rule starArgument) (.mark "="))],
        refuse (.badArguments .starAfterUnpacked)⟩,
      ⟨[.rule expression, .rule clauses, comma,
        .optional (.anyOf [.rule argumentList, .sequence [.rule expression, .rule clauses]])],
        refuse (.badArguments .bareGenerator)⟩,
      ⟨[.name, .mark "=", .rule expression, .rule clauses], refuse .assignment⟩,
      ⟨[.rule argumentList, .rule clauses], refuseGenerator⟩,
      ⟨[.rule argumentList, comma, .rule expression, .rule clauses],
        refuse (.badArguments .bareGenerator)⟩,
      ⟨[.rule argumentList, comma, .rule argumentList], refusePositional⟩]
  | wrongNamed => .choice [
      ⟨[.anyOf [.word "True", .word "False", .word "None"], .mark "="], refuseAssigned⟩,
      ⟨[.name, .mark "=", .rule expression, .rule clauses], refuse .assignment⟩,
      ⟨[.notAhead (.sequence [.name, .mark "="]), .rule expression, .mark "="],
        refuse (.badArguments .assignedExpression)⟩]
  | wrongComprehension => .choice [
      ⟨[opening, .rule starArgument, .rule clauses], refuse (.badGroup .starInComprehension)⟩,
      ⟨[.mark "\x7b", .rule starNamed, comma, .rule starNamedList, .rule clauses],
        refuse (.badGroup .bareTarget)⟩,
      ⟨[.mark "\x7b", .rule starNamed, comma, .rule clauses], refuse (.badGroup .bareTarget)⟩]
  | wrongDictionaryComprehension => .choice [
      ⟨[.mark "\x7b", .mark "**", .rule union, .rule clauses, .mark "\x7d"],
        refuse (.badGroup .doubleStarInComprehension)⟩]
  | wrongGroup => .choice [
      ⟨[.mark "(", .rule starArgument, .mark ")"], refuse (.badGroup .star)⟩,
      ⟨[.mark "(", .mark "**", .rule expression, .mark ")"], refuse (.badGroup .doubleStar)⟩]
  | wrongEntries => .choice [
      ⟨[.separated (.rule entry), comma, .rule wrongEntry], together⟩,
      ⟨[.rule expression, .mark ":", .mark "*", .rule union], refuse (.badGroup .starValue)⟩,
      ⟨[.rule expression, .mark ":", .ahead (.anyOf [.mark "\x7d", comma])],
        refuse (.badGroup .noValue)⟩]
  | wrongEntry => .choice [
      ⟨[.rule expression, .notAhead (.mark ":")], refuse (.badGroup .noColon)⟩,
      ⟨[.rule expression, .mark ":", .mark "*", .rule union], refuse (.badGroup .starValue)⟩,
      ⟨[.rule expression, .mark ":", .ahead (.anyOf [.mark "\x7d", comma])],
        refuse (.badGroup .noValue)⟩]
  | wrongTarget => .choice [
      ⟨[.optional (.word "async"), .word "for", .rule starExpressions], refuseTarget⟩]
  | wrongParameters => .choice [
      ⟨[.many (.rule plainParameter), .rule defaultsBefore, .rule plainParameter],
        refuse (.badParameters .defaultFirst)⟩,
      ⟨[.many (.rule plainParameter), .mark "(", .separated .name, .optional comma, .mark ")"],
        refuse (.badParameters .brackets)⟩,
      ⟨[.mark "/", comma], refuse (.badParameters .slashFirst)⟩,
      ⟨[.anyOf [.rule slashPlain, .rule slashDefault], .many (.rule anyParameter), .mark "/"],
        refuse (.badParameters .slashTwice)⟩,
      ⟨[.optional (.anyOf [.rule slashPlain, .rule slashDefault]), .many (.rule anyParameter),
        .mark "*", .anyOf [comma, .rule plainParameter], .many (.rule anyParameter), .mark "/"],
        refuse (.badParameters .slashAfterStar)⟩,
      ⟨[.oneOrMore (.rule anyParameter), .mark "/", .mark "*"],
        refuse (.badParameters .noCommaBeforeStar)⟩]
  | defaultsBefore => .choice [
      only slashDefault,
      ⟨[.oneOrMore (.rule defaultParameter)], together⟩]
  | wrongStarParameters => .choice [
      ⟨[.mark "*", .anyOf [.mark ":", .sequence [comma, .anyOf [.mark ":", .mark "**"]]]],
        refuse (.badParameters .nothingAfterStar)⟩,
      ⟨[.mark "*", .name, .mark "="], refuse (.badParameters .defaultOfStar)⟩,
      ⟨[.mark "*", .anyOf [.rule plainParameter, comma], .many (.rule anyParameter), .mark "*",
        .anyOf [.rule plainParameter, comma]], refuse (.badParameters .starTwice)⟩]
  | wrongDoubleStarParameter => .choice [
      ⟨[.mark "**", .name, .mark "="], refuse (.badParameters .defaultOfDoubleStar)⟩,
      ⟨[.mark "**", .name, comma, .name], refuse (.badParameters .afterDoubleStar)⟩,
      ⟨[.mark "**", .name, comma, .anyOf [.mark "*", .mark "**", .mark "/"]],
        refuse (.badParameters .afterDoubleStar)⟩]
  | wrongDefault => .choice [
      ⟨[.mark "=", .ahead (.anyOf [.mark ")", comma])], refuse (.badParameters .noDefault)⟩]

/-! Words that are no names. -/

def reserved : List Text := List.map String.toList [
  "and", "as", "assert", "async", "await", "break", "class", "continue", "def", "del", "elif",
  "else", "except", "finally", "for", "from", "global", "if", "import", "in", "is", "lambda",
  "nonlocal", "not", "or", "pass", "raise", "return", "try", "while", "with", "yield", "None",
  "True", "False"]

def softWords : List Text := ["_", "case", "match"]

/-- Whether an item that stands for one token stands for this one. -/
def Item.accepts (item : Item) (token : Token) : Bool :=
  match item, token with
  | .mark expected, .mark symbol => symbol == expected
  | .word expected, .word found => found == expected
  | .name, .word found => !reserved.contains found
  | .softName, .word found => softWords.any (Text.startsWith · found)
  | .number, .number _ => true
  | .quoted, .quoted .. => true
  | .lineEnd, .lineEnd => true
  | .finish, .finish => true
  | _, _ => false

end Expression

end SchemaSeed
