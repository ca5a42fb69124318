import SchemaSeed.Proofs.Column.Gap

/-! A blank in a block.  Most of what a block is read for is found on one side of the blank or
on the other; what is read over it is the same without it. -/

namespace SchemaSeed

open Sql

/-! ## Names and keys -/

section Joint

variable {left : Text} {last first : Char} (joint : Joint left last first)

include joint

theorem splitName_fst_spaced (rest : Text) (gap : Bool) :
    (Column.splitName (left ++ spaced gap (first :: rest))).1 =
      (Column.splitName (left ++ first :: rest)).1 := by
  change _ = (Column.splitName (left ++ spaced false (first :: rest))).1
  rcases Column.splitName_spaced joint rest with unnamed | ⟨_, named⟩ | ⟨_, _, -, -, named⟩
  · rw [unnamed, unnamed]
  · rw [named, named]
  · rw [named, named]

theorem firstName?_spaced (rest : Text) (gap : Bool) :
    firstName? (left ++ spaced gap (first :: rest)) =
      (firstName? left).or (firstName? (first :: rest)) := by
  cases gap with
  | true => exact firstName?_bar ⟨by decide, by decide⟩ left (first :: rest)
  | false =>
      refine joint.firstName?_append List.suffix_rfl (fun proper => proper.firstName? _) ?_
      rintro _ ⟨⟩
      rfl

/-- The blank does not matter to the first name before a parenthesis. -/
theorem firstName?_takeWhile_spaced {part : Text} (suffix : part <:+ left)
    (proper : Lexical false IsName left →
      ∀ right, firstName? (part ++ right) = (firstName? part).or (firstName? right))
    (rest : Text) (gap : Bool) :
    firstName? ((part ++ spaced gap (first :: rest)).takeWhile (· != ')')) =
      firstName? ((part ++ first :: rest).takeWhile (· != ')')) := by
  cases gap with
  | false => rfl
  | true =>
      rw [List.takeWhile_append, List.takeWhile_append]
      split
      · rw [spaced, List.takeWhile_cons_of_pos (by decide),
          firstName?_bar ⟨by decide, by decide⟩,
          joint.firstName?_append suffix fun names => proper names _]
        intro character head
        rw [List.takeWhile_cons] at head
        split at head
        · cases head
          rfl
        · cases head
      · rfl

variable (unlike : last = first → last ≠ '\'' ∧ last ≠ '"')

include unlike

theorem keyMention_spaced (rest : Text) (gap : Bool) :
    Reading.keyMention (left ++ spaced gap (first :: rest)) =
      Reading.keyMention (left ++ first :: rest) := by
  change _ = Reading.keyMention (left ++ spaced false (first :: rest))
  have reads : ReadsWords primaryKey? := readsWords_phrase (by decide) (by decide)
  rcases joint.mask rest with ⟨lastMasked, firstMasked, behind, starts, masked⟩
  have names (gap : Bool) := splitName_fst_spaced masked behind gap
  have search (gap : Bool) := search?_spaced masked.ends masked.apart reads behind gap
  simp only [Reading.keyMention, joint.mask_spaced unlike, starts, search, names]
  cases found : search? primaryKey? (mask left) with
  | none => rfl
  | some after =>
      have suffix := search?_suffix (fun _ _ => phrase?_suffix) found
      have same (gap : Bool) := firstName?_takeWhile_spaced masked suffix
        (fun proper => proper.firstName?_behind (by decide) (by decide) found) behind gap
      simp only [Option.map_some, Option.some_or, same]

end Joint

/-! ## Columns -/

section Column

variable {left : Text} {last first : Char}

/-- The type of a column is read alike with the blank and without it. -/
theorem classify_spaced {name behind : Text} (split : Column.splitName left = (some name, behind))
    (joint : Joint behind last first) (unshared : Column.Unshared left last first) (rest : Text)
    (named : ∀ gap, Column.splitName (left ++ spaced gap (first :: rest)) =
      (some name, behind ++ spaced gap (first :: rest))) :
    Agree (Column.classify (left ++ spaced false (first :: rest)))
      (Column.classify (left ++ spaced true (first :: rest))) := by
  have reads : ReadsWords (word? "unsigned") := readsWords_word (by decide) (by decide)
  have unsigned (gap : Bool) := occurs_spaced joint.ends joint.apart reads rest gap
  have typed (gap : Bool) := Column.typeName?_spaced joint rest gap
  simp only [Column.classify, named, mentionsUnsigned, unsigned, typed]
  cases found : Column.typeName? behind with
  | none => exact .refl _
  | some pair =>
      rcases pair with ⟨typeName, typeEnd⟩
      simp only [Option.bind_some]
      cases keyword : Column.matchKeyword typeName with
      | none => exact .refl _
      | some matched =>
          rcases matched with ⟨word, category⟩
          refine .symm (Column.ofCategory_spaced joint found _ _ _ ?_ rest true)
          rintro rfl
          rcases Column.exists_lead split with ⟨lead, whole, closed, -⟩
          have runs : Scan.start.run behind = Scan.start.run left := by
            have returns : Scan.start.run lead = Scan.start := closed.returns 0
            rw [whole, Scan.run_append, returns]
          rw [runs]
          cases unshared with
          | outside outside => exact .inl outside
          | edge within edge => exact .inr ⟨within, edge⟩
          | other other =>
              rw [Column.isEnumeration, split, found] at other
              simp [keyword] at other

/-- What decides over a column is read alike with the blank and without it. -/
theorem isPlainColumn_spaced {name behind : Text} (joint : Joint behind last first)
    (unlike : last = first → last ≠ '\'' ∧ last ≠ '"') (rest : Text)
    (named : ∀ gap, Column.splitName (left ++ spaced gap (first :: rest)) =
      (some name, behind ++ spaced gap (first :: rest)))
    (markers : ∀ gap, occurs tableMarker? (left ++ spaced gap (first :: rest)) =
      occurs tableMarker? (left ++ spaced false (first :: rest))) (primaryKey : Text) :
    Reading.isPlainColumn primaryKey (left ++ spaced false (first :: rest)) =
      Reading.isPlainColumn primaryKey (left ++ spaced true (first :: rest)) := by
  rcases joint.mask rest with ⟨lastMasked, firstMasked, masked, starts, jointMasked⟩
  have timestamp : ReadsWords (word? "timestamp") := readsWords_word (by decide) (by decide)
  have keys (gap : Bool) := @hasOwnWordAfter_spaced _ _ _ jointMasked.ends jointMasked.apart
    keyWords (by decide) masked gap none
  have timestamps (gap : Bool) :=
    occurs_spaced jointMasked.ends jointMasked.apart timestamp masked gap
  simp only [Reading.isPlainColumn, markers, named, joint.mask_spaced unlike, starts,
    mentionsKey, keys, mentionsTimestamp, timestamps]

/-- A candidate declares the same with the blank and without it. -/
theorem interchangeable_spaced (joint : Joint left last first)
    (unlike : last = first → last ≠ '\'' ∧ last ≠ '"')
    (unshared : Column.Unshared left last first) (rest : Text) :
    Reading.Interchangeable (left ++ first :: rest) (left ++ spaced true (first :: rest)) := by
  have marker : ReadsWords tableMarker? := readsWords_phrase (by decide) (by decide)
  have markers (gap : Bool) := occurs_spaced joint.ends joint.apart marker rest gap
  have mention := (keyMention_spaced joint unlike rest true).symm
  change Reading.Interchangeable (left ++ spaced false (first :: rest)) _
  rcases Column.splitName_spaced joint rest with
    unnamed | ⟨name, named⟩ | ⟨name, behind, split, jointBehind, named⟩
  · have plain (primaryKey : Text) (gap : Bool) :=
      Reading.isPlainColumn_eq_false_of_unnamed (unnamed gap) primaryKey
    refine ⟨mention, fun primaryKey => ?_, fun primaryKey isPlain => ?_⟩
    · rw [plain, plain]
    · rw [plain] at isPlain
      cases isPlain
  · refine ⟨mention, fun primaryKey => ?_, fun _ _ => ?_⟩
    · simp only [Reading.isPlainColumn, markers, named]
    · exact .of_eq (by simp only [Column.classify, named])
  · have sameMarkers (gap : Bool) := (markers gap).trans (markers false).symm
    exact ⟨mention, isPlainColumn_spaced jointBehind unlike rest named sameMarkers,
      fun _ _ => classify_spaced split jointBehind unshared rest named⟩

end Column

end SchemaSeed
