import SchemaSeed.Proofs.Sql.Nested

/-! The parts of a list, read from any scan on.  A text that holds no separator where the
scan can see it is continued by the first part of what follows; text that is closed in
itself can therefore be joined with commas and split again, and a scan inside a group goes
through it without leaving the group. -/

namespace SchemaSeed

namespace Sql

/-! ## Parts from a scan on -/

/-- Puts text in front of the first part. -/
def continued (front : Text) : List Text → List Text
  | [] => [front]
  | first :: rest => (front ++ first) :: rest

def partsFrom (separator : Text) (scan : Scan) : Text → List Text
  | [] => [[]]
  | character :: rest =>
      if Parts.separates separator scan character then [] :: partsFrom separator scan rest
      else continued [character] (partsFrom separator (scan.step character) rest)

theorem continued_append (first second : Text) (parts : List Text) :
    continued (first ++ second) parts = continued first (continued second parts) := by
  cases parts <;> simp [continued]

theorem continued_ne_nil (front : Text) (parts : List Text) : continued front parts ≠ [] := by
  cases parts <;> simp [continued]

theorem partsFrom_ne_nil (separator : Text) (scan : Scan) (text : Text) :
    partsFrom separator scan text ≠ [] := by
  cases text with
  | nil => simp [partsFrom]
  | cons character rest =>
      simp only [partsFrom]
      split
      · simp
      · exact continued_ne_nil _ _

theorem continued_nil_partsFrom (separator : Text) (scan : Scan) (text : Text) :
    continued [] (partsFrom separator scan text) = partsFrom separator scan text := by
  cases shape : partsFrom separator scan text with
  | nil => exact absurd shape (partsFrom_ne_nil _ _ _)
  | cons first rest => rfl

/-- The scan of a separator leaves everything as it is. -/
theorem step_of_separates {separator : Text} {scan : Scan} {character : Char}
    (separates : Parts.separates separator scan character = true) :
    scan.step character = scan := by
  rcases scan with ⟨mode, depth⟩
  simp only [Parts.separates, Scan.isTop, Bool.and_eq_true, beq_iff_eq, Bool.not_eq_true',
    bne_iff_ne] at separates
  rcases separates with ⟨⟨⟨⟨rfl, rfl⟩, -⟩, unquoted⟩, noOpening⟩
  simp only [Scan.step, noOpening, if_false]
  split
  · rfl
  · simp [Mode.step, unquoted]

theorem foldl_step_eq (separator : Text) (scan : Scan) (finished : List Text)
    (current text : Text) :
    (text.foldl (Parts.step separator) ⟨scan, finished, current⟩).scan = scan.run text ∧
      (text.foldl (Parts.step separator) ⟨scan, finished, current⟩).toList =
        finished.reverse ++ continued current.reverse (partsFrom separator scan text) := by
  induction text generalizing scan finished current with
  | nil => simp [partsFrom, continued, Parts.toList]
  | cons character rest induction =>
      cases separates : Parts.separates separator scan character with
      | true =>
          have stepped : Parts.step separator ⟨scan, finished, current⟩ character =
              ⟨scan, current.reverse :: finished, []⟩ := by
            simp only [Parts.step, separates, if_true]
          rcases induction scan (current.reverse :: finished) [] with ⟨same, parts⟩
          rw [List.foldl_cons, stepped, Scan.run_cons, step_of_separates separates]
          refine ⟨same, ?_⟩
          rw [parts, List.reverse_nil, continued_nil_partsFrom]
          simp [partsFrom, separates, continued]
      | false =>
          have stepped : Parts.step separator ⟨scan, finished, current⟩ character =
              ⟨scan.step character, finished, character :: current⟩ := by
            simp only [Parts.step, separates, Bool.false_eq_true, if_false]
          rcases induction (scan.step character) finished (character :: current) with ⟨same, parts⟩
          rw [List.foldl_cons, stepped]
          refine ⟨same, ?_⟩
          rw [parts, List.reverse_cons, continued_append]
          simp [partsFrom, separates]

/-- Splitting is refused exactly at an open quote. -/
theorem splitTop_eq (separator text : Text) :
    splitTop separator text =
      match (Scan.start.run text).mode.quote? with
      | some quote => .error (.unterminatedQuote quote text)
      | none => .ok (partsFrom separator Scan.start text) := by
  rcases foldl_step_eq separator Scan.start [] [] text with ⟨scan, parts⟩
  rw [List.reverse_nil, List.reverse_nil, continued_nil_partsFrom, List.nil_append] at parts
  cases quote : (Scan.start.run text).mode.quote? <;>
    simp only [splitTop, Parts.empty, scan, parts, quote]

theorem splitTop_eq_ok {separator text : Text} {parts : List Text}
    (split : splitTop separator text = .ok parts) :
    (Scan.start.run text).mode.quote? = none ∧ parts = partsFrom separator Scan.start text := by
  rw [splitTop_eq] at split
  cases quote : (Scan.start.run text).mode.quote? with
  | none =>
      rw [quote] at split
      cases split
      exact ⟨rfl, rfl⟩
  | some quote =>
      simp only [quote] at split
      cases split

/-- The parts stand in the text: the first one at its start, the others behind it. -/
theorem partsFrom_eq_cons {separator : Text} {scan : Scan} {text first : Text}
    {others : List Text} (parts : partsFrom separator scan text = first :: others) :
    first <+: text ∧ ∀ other ∈ others, other <:+: text := by
  induction text generalizing scan first others with
  | nil =>
      cases parts
      exact ⟨List.nil_prefix, by simp⟩
  | cons character rest induction =>
      simp only [partsFrom] at parts
      split at parts
      · cases shape : partsFrom separator scan rest with
        | nil => exact absurd shape (partsFrom_ne_nil _ _ _)
        | cons second more =>
            rcases induction shape with ⟨front, later⟩
            rw [shape] at parts
            cases parts
            refine ⟨List.nil_prefix, List.forall_mem_cons.mpr ⟨?_, fun other member => ?_⟩⟩
            · exact List.infix_cons front.isInfix
            · exact List.infix_cons (later other member)
      · cases shape : partsFrom separator (scan.step character) rest with
        | nil => exact absurd shape (partsFrom_ne_nil _ _ _)
        | cons second more =>
            rcases induction shape with ⟨front, later⟩
            rw [shape] at parts
            cases parts
            refine ⟨List.cons_prefix_cons.mpr ⟨rfl, front⟩, fun other member => ?_⟩
            exact List.infix_cons (later other member)

theorem isInfix_of_mem_partsFrom {separator : Text} {scan : Scan} {text part : Text}
    (member : part ∈ partsFrom separator scan text) : part <:+: text := by
  cases shape : partsFrom separator scan text with
  | nil => exact absurd shape (partsFrom_ne_nil _ _ _)
  | cons first others =>
      rcases partsFrom_eq_cons shape with ⟨front, later⟩
      rw [shape] at member
      rcases List.mem_cons.mp member with rfl | among
      · exact front.isInfix
      · exact later part among

/-! ## Text without separators -/

/-- No character of the text separates. -/
def Unbroken (separator : Text) (scan : Scan) (text : Text) : Prop :=
  partsFrom separator scan text = [text]

namespace Unbroken

variable {separator : Text} {scan : Scan}

theorem nil : Unbroken separator scan [] := rfl

theorem cons {character : Char} {rest : Text}
    (kept : Parts.separates separator scan character = false)
    (unbroken : Unbroken separator (scan.step character) rest) :
    Unbroken separator scan (character :: rest) := by
  rw [Unbroken, partsFrom, kept, unbroken]
  rfl

theorem tail {character : Char} {rest : Text}
    (unbroken : Unbroken separator scan (character :: rest)) :
    Parts.separates separator scan character = false ∧
      Unbroken separator (scan.step character) rest := by
  rw [Unbroken, partsFrom] at unbroken
  split at unbroken
  · simp at unbroken
  · rename_i kept
    refine ⟨by simpa using kept, ?_⟩
    cases shape : partsFrom separator (scan.step character) rest with
    | nil => exact absurd shape (partsFrom_ne_nil _ _ _)
    | cons first others =>
        rw [shape] at unbroken
        simp only [continued, List.cons_append, List.nil_append, List.cons.injEq, true_and]
          at unbroken
        rw [Unbroken, shape, unbroken.1, unbroken.2]

theorem partsFrom_append {first : Text} (unbroken : Unbroken separator scan first)
    (second : Text) :
    partsFrom separator scan (first ++ second) =
      continued first (partsFrom separator (scan.run first) second) := by
  induction first generalizing scan with
  | nil => exact (continued_nil_partsFrom _ _ _).symm
  | cons character first induction =>
      rcases unbroken.tail with ⟨kept, later⟩
      rw [List.cons_append, partsFrom, kept, induction later, Scan.run_cons]
      exact (continued_append [character] first _).symm

theorem append {first second : Text} (unbroken : Unbroken separator scan first)
    (later : Unbroken separator (scan.run first) second) :
    Unbroken separator scan (first ++ second) := by
  rw [Unbroken, unbroken.partsFrom_append, later]
  rfl

end Unbroken

section Mark

variable {mark : Char} (unquoted : isQuote mark = false) (noOpening : mark ≠ '(')

include unquoted noOpening

theorem separates_singleton (scan : Scan) : Parts.separates [mark] scan mark = scan.isTop := by
  simp [Parts.separates, unquoted, noOpening]

theorem unbroken_iff {scan : Scan} {text : Text} :
    Unbroken [mark] scan text ↔
      ∀ before after, text = before ++ mark :: after → (scan.run before).isTop = false := by
  induction text generalizing scan with
  | nil => exact ⟨fun _ before after shape => by simp at shape, fun _ => .nil⟩
  | cons character text induction =>
      constructor
      · intro unbroken before after shape
        rcases unbroken.tail with ⟨kept, later⟩
        cases before with
        | nil =>
            rcases List.cons_eq_cons.mp shape with ⟨rfl, -⟩
            rwa [separates_singleton unquoted noOpening] at kept
        | cons first before =>
            rcases List.cons_eq_cons.mp shape with ⟨rfl, rest⟩
            exact induction.mp later before after rest
      · intro whole
        refine .cons ?_ (induction.mpr fun before after shape => ?_)
        · by_cases same : character = mark
          · rw [same, separates_singleton unquoted noOpening]
            exact whole [] text (by rw [same]; rfl)
          · simp [Parts.separates, Ne.symm same]
        · exact whole (character :: before) after (congrArg (List.cons character) shape)

end Mark

/-! ## Steady text -/

/-- The scan of the text opens and closes no parentheses. -/
def Steady : Scan → Text → Prop
  | _, [] => True
  | scan, character :: rest =>
      (scan.step character).depth = scan.depth ∧ Steady (scan.step character) rest

theorem steady_append {scan : Scan} {first second : Text} :
    Steady scan (first ++ second) ↔ Steady scan first ∧ Steady (scan.run first) second := by
  induction first generalizing scan with
  | nil => simp [Steady]
  | cons character first induction => simp [Steady, induction, and_assoc]

/-- Within a group nothing separates. -/
theorem Steady.unbroken {scan : Scan} {text : Text} (steady : Steady scan text)
    (inside : scan.depth ≠ 0) (separator : Text) : Unbroken separator scan text := by
  induction text generalizing scan with
  | nil => exact .nil
  | cons character rest induction =>
      refine .cons ?_ (induction steady.2 (by rw [steady.1]; exact inside))
      simp [Parts.separates, Scan.isTop, inside]

/-- The search for a group goes through steady text. -/
theorem Steady.searchFrom {scan : Scan} {text : Text} (steady : Steady scan text)
    {opening : Option Nat} (consistent : opening = none ↔ scan.depth = 0) (position : Nat)
    (rest : Text) :
    searchFrom scan opening position (text ++ rest) =
      searchFrom (scan.run text) opening (position + text.length) rest := by
  induction text generalizing scan position with
  | nil => rfl
  | cons character text induction =>
      rw [List.cons_append, searchFrom_cons_of_depth steady.1 consistent,
        induction steady.2 (by rw [steady.1]; exact consistent), List.length_cons, Scan.run_cons]
      congr 1
      omega

/-! ## Closed text -/

/-- Text that stands for itself in a list: it opens no group, closes its quotes, and no
comma in it separates. -/
structure Closed (text : Text) : Prop where
  steady : ∀ depth, Steady ⟨.plain, depth⟩ text
  returns : ∀ depth, Scan.run ⟨.plain, depth⟩ text = ⟨.plain, depth⟩
  unbroken : Unbroken "," Scan.start text

theorem Closed.nil : Closed [] :=
  ⟨fun _ => trivial, fun _ => rfl, rfl⟩

theorem closed_of_plain {text : Text}
    (plain : ∀ character ∈ text, isQuote character = false ∧ character ≠ '(' ∧
      character ≠ ')' ∧ character ≠ ',') : Closed text := by
  induction text with
  | nil => exact .nil
  | cons character text induction =>
      rcases plain character List.mem_cons_self with ⟨unquoted, noOpening, noClosing, noComma⟩
      have step := step_plain unquoted noOpening noClosing
      have later := induction fun later member => plain later (List.mem_cons_of_mem _ member)
      constructor
      · intro depth
        exact ⟨by rw [step], by rw [step]; exact later.steady depth⟩
      · intro depth
        rw [Scan.run_cons, step, later.returns]
      · refine .cons (by simp [Parts.separates, noComma.symm]) ?_
        rw [Scan.start, step]
        exact later.unbroken

theorem Closed.append {first second : Text} (closed : Closed first) (later : Closed second) :
    Closed (first ++ second) where
  steady depth := by
    rw [steady_append, closed.returns]
    exact ⟨closed.steady depth, later.steady depth⟩
  returns depth := by rw [Scan.run_append, closed.returns, later.returns]
  unbroken := by
    refine closed.unbroken.append ?_
    rw [Scan.start, closed.returns]
    exact later.unbroken

/-- Content that neither closes the quotes around it nor takes their end along. -/
inductive Enclosed (quote : Char) : Text → Prop
  | nil : Enclosed quote []
  | plain {character : Char} {rest : Text} (different : character ≠ quote)
      (noEscape : character ≠ '\\') (later : Enclosed quote rest) :
      Enclosed quote (character :: rest)
  | escaped {character : Char} {rest : Text} (later : Enclosed quote rest) :
      Enclosed quote ('\\' :: character :: rest)

theorem Enclosed.of_plain {quote : Char} {content : Text}
    (plain : ∀ character ∈ content, character ≠ quote ∧ character ≠ '\\') :
    Enclosed quote content := by
  induction content with
  | nil => exact .nil
  | cons character content induction =>
      rcases plain character List.mem_cons_self with ⟨different, noEscape⟩
      exact .plain different noEscape
        (induction fun later member => plain later (List.mem_cons_of_mem _ member))

theorem Enclosed.append {quote : Char} {first second : Text} (enclosed : Enclosed quote first)
    (later : Enclosed quote second) : Enclosed quote (first ++ second) := by
  induction enclosed with
  | nil => exact later
  | plain different noEscape _ induction => exact .plain different noEscape induction
  | escaped _ induction => exact .escaped induction

theorem step_backslash (quote : Char) (depth : Nat) :
    Scan.step ⟨.quoted quote false, depth⟩ '\\' = ⟨.quoted quote true, depth⟩ := rfl

theorem step_escaped (quote character : Char) (depth : Nat) :
    Scan.step ⟨.quoted quote true, depth⟩ character = ⟨.quoted quote false, depth⟩ := rfl

theorem separates_quoted (separator : Text) (quote : Char) (escaped : Bool) (depth : Nat)
    (character : Char) :
    Parts.separates separator ⟨.quoted quote escaped, depth⟩ character = false := rfl

theorem Enclosed.scan {quote : Char} {content : Text} (enclosed : Enclosed quote content)
    (depth : Nat) :
    Steady ⟨.quoted quote false, depth⟩ content ∧
      Scan.run ⟨.quoted quote false, depth⟩ content = ⟨.quoted quote false, depth⟩ ∧
      Unbroken "," ⟨.quoted quote false, depth⟩ content := by
  induction enclosed with
  | nil => exact ⟨trivial, rfl, .nil⟩
  | plain different noEscape _ induction =>
      rcases induction with ⟨steady, returns, unbroken⟩
      have step := step_quoted different noEscape depth
      refine ⟨⟨by rw [step], by rwa [step]⟩, by rw [Scan.run_cons, step, returns], ?_⟩
      exact .cons (separates_quoted _ _ _ _ _) (by rwa [step])
  | escaped _ induction =>
      rcases induction with ⟨steady, returns, unbroken⟩
      refine ⟨⟨rfl, rfl, ?_⟩, ?_, ?_⟩
      · rwa [step_backslash, step_escaped]
      · rwa [Scan.run_cons, step_backslash, Scan.run_cons, step_escaped]
      · refine .cons (separates_quoted _ _ _ _ _) (.cons (separates_quoted _ _ _ _ _) ?_)
        rwa [step_backslash, step_escaped]

theorem closed_quoted {quote : Char} {content : Text} (opens : isQuote quote = true)
    (enclosed : Enclosed quote content) : Closed (quote :: content ++ [quote]) := by
  have noComma : quote ≠ ',' := by
    rintro rfl
    cases opens
  have opened := step_open_quote opens
  have closes := step_close_quote opens
  constructor
  · intro depth
    rcases enclosed.scan depth with ⟨steady, returns, -⟩
    rw [List.cons_append]
    refine ⟨by rw [opened], ?_⟩
    rw [opened, steady_append, returns]
    exact ⟨steady, by rw [closes], trivial⟩
  · intro depth
    rcases enclosed.scan depth with ⟨-, returns, -⟩
    rw [List.cons_append, Scan.run_cons, opened, Scan.run_append, returns, Scan.run_cons, closes,
      Scan.run_nil]
  · rcases enclosed.scan 0 with ⟨-, returns, unbroken⟩
    rw [List.cons_append]
    refine .cons (by simp [Parts.separates, noComma.symm]) ?_
    rw [Scan.start, opened]
    refine unbroken.append ?_
    rw [returns]
    exact .cons (separates_quoted _ _ _ _ _) .nil

/-- A group around steady text. -/
theorem unbroken_group {inner : Text} (steady : Steady ⟨.plain, 1⟩ inner)
    (returns : Scan.run ⟨.plain, 1⟩ inner = ⟨.plain, 1⟩) :
    Unbroken "," Scan.start ('(' :: inner ++ [')']) ∧
      Scan.start.run ('(' :: inner ++ [')']) = Scan.start := by
  have opened : Scan.start.step '(' = ⟨.plain, 1⟩ := rfl
  rw [List.cons_append]
  constructor
  · refine .cons rfl ?_
    rw [opened]
    refine (steady.unbroken (Nat.succ_ne_zero 0) _).append ?_
    rw [returns]
    exact .cons rfl .nil
  · rw [Scan.run_cons, opened, Scan.run_append, returns]
    rfl

/-- The first group behind closed text. -/
theorem findGroup_append {lead inner : Text} (closed : Closed lead)
    (steady : Steady ⟨.plain, 1⟩ inner)
    (returns : Scan.run ⟨.plain, 1⟩ inner = ⟨.plain, 1⟩) (rest : Text) :
    findGroup (lead ++ ('(' :: inner ++ ')' :: rest)) 0 =
      .ok (some ⟨lead.length, lead.length + 1 + inner.length⟩) := by
  have opened (position : Nat) : searchFrom Scan.start none position
      ('(' :: (inner ++ ')' :: rest)) =
        searchFrom ⟨.plain, 1⟩ (some position) (position + 1) (inner ++ ')' :: rest) := rfl
  have steadyLead : Steady Scan.start lead := closed.steady 0
  have returnsLead : Scan.start.run lead = Scan.start := closed.returns 0
  have found : searchFrom Scan.start none 0 (lead ++ ('(' :: inner ++ ')' :: rest)) =
      .found ⟨lead.length, lead.length + 1 + inner.length⟩ := by
    rw [steadyLead.searchFrom (by simp [Scan.start]), returnsLead, List.cons_append, opened,
      steady.searchFrom (by simp), returns, Nat.zero_add]
    rfl
  simp only [findGroup, List.drop_zero, found]

/-! ## Lists of closed text -/

section Join

variable {mark : Char} (unquoted : isQuote mark = false) (noOpening : mark ≠ '(')

include unquoted noOpening

/-- Behind the last part the scan stands where that part leaves it; every other part is read
up to its end outside of all quotes and parentheses. -/
theorem partsFrom_join {first : Text} {rest : List Text}
    (unbroken : ∀ part ∈ first :: rest, Unbroken [mark] Scan.start part)
    (returns : ∀ part ∈ (first :: rest).dropLast, Scan.start.run part = Scan.start) :
    partsFrom [mark] Scan.start (Text.join [mark] (first :: rest)) = first :: rest ∧
      Scan.start.run (Text.join [mark] (first :: rest)) =
        Scan.start.run ((first :: rest).getLast (List.cons_ne_nil _ _)) := by
  induction rest generalizing first with
  | nil =>
      rw [Text.join_singleton]
      exact ⟨unbroken first List.mem_cons_self, rfl⟩
  | cons second rest induction =>
      rw [List.dropLast_cons_cons, List.forall_mem_cons] at returns
      rw [List.forall_mem_cons] at unbroken
      rcases induction unbroken.2 returns.2 with ⟨parts, scan⟩
      have separates : Parts.separates [mark] Scan.start mark = true := by
        rw [separates_singleton unquoted noOpening]
        rfl
      have behind : partsFrom [mark] Scan.start (mark :: Text.join [mark] (second :: rest)) =
          [] :: second :: rest := by rw [partsFrom, if_pos separates, parts]
      rw [Text.join_cons_cons, List.append_assoc, List.singleton_append]
      constructor
      · rw [unbroken.1.partsFrom_append, returns.1, behind]
        simp [continued]
      · rw [Scan.run_append, returns.1, Scan.run_cons, step_of_separates separates, scan,
          List.getLast_cons_cons]

theorem splitTop_join_of_returns {parts : List Text} (nonempty : parts ≠ [])
    (unbroken : ∀ part ∈ parts, Unbroken [mark] Scan.start part)
    (returns : ∀ part ∈ parts.dropLast, Scan.start.run part = Scan.start)
    (closed : (Scan.start.run (parts.getLast nonempty)).mode.quote? = none) :
    splitTop [mark] (Text.join [mark] parts) = .ok parts := by
  rcases List.exists_cons_of_ne_nil nonempty with ⟨first, rest, rfl⟩
  rcases partsFrom_join unquoted noOpening unbroken returns with ⟨parts, scan⟩
  rw [splitTop_eq, scan, closed, parts]

end Join

theorem splitTop_join_of_unbroken {first : Text} {rest : List Text}
    (whole : ∀ part ∈ first :: rest,
      Unbroken "," Scan.start part ∧ Scan.start.run part = Scan.start) :
    splitTop "," (Text.join "," (first :: rest)) = .ok (first :: rest) := by
  have returns (part : Text) (member : part ∈ first :: rest) : Scan.start.run part = Scan.start :=
    (whole part member).2
  refine @splitTop_join_of_returns ',' rfl (by decide) _ (List.cons_ne_nil _ _)
    (fun part member => (whole part member).1)
    (fun part member => returns part (List.dropLast_subset _ member)) ?_
  rw [returns _ (List.getLast_mem _)]
  rfl

theorem steady_join {parts : List Text} (closed : ∀ part ∈ parts, Closed part) (depth : Nat) :
    Steady ⟨.plain, depth⟩ (Text.join "," parts) ∧
      Scan.run ⟨.plain, depth⟩ (Text.join "," parts) = ⟨.plain, depth⟩ := by
  induction parts with
  | nil => exact ⟨trivial, rfl⟩
  | cons first rest induction =>
      have here := closed first List.mem_cons_self
      have later := induction fun part member => closed part (List.mem_cons_of_mem _ member)
      cases rest with
      | nil =>
          rw [Text.join_singleton]
          exact ⟨here.steady depth, here.returns depth⟩
      | cons second rest =>
          have comma : Scan.run ⟨.plain, depth⟩ ",".toList = ⟨.plain, depth⟩ := rfl
          rw [Text.join_cons_cons, steady_append, steady_append, Scan.run_append, Scan.run_append,
            Scan.run_append, here.returns, comma]
          exact ⟨⟨⟨here.steady depth, rfl, trivial⟩, later.1⟩, later.2⟩

end Sql

end SchemaSeed
