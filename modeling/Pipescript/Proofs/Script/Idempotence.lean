import Pipescript.Proofs.Scan.SealedScan
import Pipescript.Proofs.Script.Layout

/-!
# Plain scripts stay plain

A script is plain if it has no macro, no double colon and no arrow, and then nothing in it is
replaced.  Each pass leaves behind none of what it replaces, and no later pass makes it anew: the
later passes touch no character of a macro, turn nothing into a colon, and the last one leaves a
sealed text, in which no arrow is found that was not found before.
-/

namespace Pipescript

/-- Whether a script has no pipeline notation. -/
structure IsPlain (script : Text) : Prop where
  noMacro : hasMacro script = false
  noAssignment : ∀ line ∈ script.toLines, Text.includes [':', ':'] line = false
  noArrow : Arrow.find (scan script).tokens = []

/-! ## Nothing to replace -/

theorem withoutMacros_of_not_hasMacro
    {script : Text}
    (noMacro : hasMacro script = false) :
    withoutMacros script = script := by
  fun_induction withoutMacros script with
  | case1 => rfl
  | case2 rest name behind found _ => simp [hasMacro, found] at noMacro
  | case3 rest _ inductionHypothesis =>
      rw [hasMacro, Bool.or_eq_false_iff] at noMacro
      rw [inductionHypothesis noMacro.2]
  | case4 c rest _ inductionHypothesis =>
      rw [hasMacro, Bool.or_eq_false_iff] at noMacro
      rw [inductionHypothesis noMacro.2]

theorem withoutAssignments_of_not_includes
    {script : Text}
    (noAssignment : ∀ line ∈ script.toLines, Text.includes [':', ':'] line = false) :
    withoutAssignments script = (script, .empty) := by
  have sameLines : script.toLines.map withoutDoubleColons = script.toLines := by
    conv => rhs; rw [← List.map_id script.toLines]
    exact List.map_congr_left fun line member =>
      withoutDoubleColons_of_not_includes (noAssignment line member)
  have noRows : assignmentRows 0 script.toLines = [] := by
    refine List.eq_nil_iff_forall_not_mem.2 fun row member => ?_
    obtain ⟨index, line, -, here, holds⟩ := mem_assignmentRows.1 member
    have none := noAssignment line (List.mem_of_getElem? here)
    exact absurd holds (by simp [none])
  unfold withoutAssignments
  dsimp only
  rw [sameLines, noRows, Text.flatten_toLines]
  rfl

theorem withoutArrows_of_not_find
    {script : Text}
    (noArrow : Arrow.find (scan script).tokens = []) :
    withoutArrows script = (script, []) := by
  simp [withoutArrows, noArrow, Arrow.sort]

/-- In a plain script nothing is replaced. -/
theorem PlainScript.ofScript_of_isPlain
    {script : Text}
    (plain : IsPlain script) :
    ofScript script = ⟨script, .empty, []⟩ := by
  unfold ofScript
  rw [withoutMacros_of_not_hasMacro plain.noMacro,
    withoutAssignments_of_not_includes plain.noAssignment]
  dsimp only
  rw [withoutArrows_of_not_find plain.noArrow]
  rfl

/-! ## No macro is left -/

/-- Whether a character can be part of a macro. -/
def isMacroChar (c : Char) : Bool :=
  c == '$' || c == '!' || isWordChar c

/-- Whether a relation between characters changes and makes no character of a macro. -/
def KeepsMacros (related : Char → Char → Prop) : Prop :=
  ∀ c d : Char, related c d → d = c ∨ (isMacroChar c = false ∧ isMacroChar d = false)

theorem assignmentChange_keepsMacros : KeepsMacros AssignmentChange := by
  rintro c d (same | ⟨rfl, rfl | rfl⟩)
  · exact .inl same
  · exact .inr (by decide +kernel)
  · exact .inr (by decide +kernel)

theorem arrowChange_keepsMacros : KeepsMacros ArrowChange := by
  rintro c d (same | ⟨rfl, rfl⟩ | ⟨rfl, rfl⟩ | ⟨rfl, rfl⟩)
  · exact .inl same
  · exact .inr (by decide +kernel)
  · exact .inr (by decide +kernel)
  · exact .inr (by decide +kernel)

/-- Behind a dollar sign a macro goes on if a word with an exclamation mark behind it follows. -/
theorem isSome_environmentMacro? (rest : Text) :
    (environmentMacro? rest).isSome =
      (!(rest.takeWhile isWordChar).isEmpty && (rest.dropWhile isWordChar).head? == some '!') := by
  unfold environmentMacro?
  split
  · next first later behind taken dropped => simp [taken, dropped]
  · next noMacro =>
      cases taken : rest.takeWhile isWordChar with
      | nil => rfl
      | cons first later =>
          cases dropped : rest.dropWhile isWordChar with
          | nil => rfl
          | cons mark behind =>
              have notMark : mark ≠ '!' := by
                rintro rfl
                exact noMacro first later behind taken dropped
              simp [notMark]

theorem takeWhile_dropWhile_of_forall₂
    {related : Char → Char → Prop} {p : Char → Bool} {text changed : Text}
    (same : ∀ c d, related c d → p d = p c)
    (pairs : List.Forall₂ related text changed) :
    List.Forall₂ related (text.takeWhile p) (changed.takeWhile p) ∧
      List.Forall₂ related (text.dropWhile p) (changed.dropWhile p) := by
  induction pairs with
  | nil => exact ⟨.nil, .nil⟩
  | @cons c d text changed first later inductionHypothesis =>
      rw [List.takeWhile_cons, List.takeWhile_cons, List.dropWhile_cons, List.dropWhile_cons,
        same c d first]
      split
      · exact ⟨.cons first inductionHypothesis.1, inductionHypothesis.2⟩
      · exact ⟨.nil, .cons first later⟩

theorem isSome_environmentMacro?_of_forall₂
    {related : Char → Char → Prop} {rest changed : Text}
    (keepsMacros : KeepsMacros related)
    (pairs : List.Forall₂ related rest changed) :
    (environmentMacro? changed).isSome = (environmentMacro? rest).isSome := by
  have sameChar : ∀ {p : Char → Bool}, (∀ c, isMacroChar c = false → p c = false) →
      ∀ c d, related c d → p d = p c := by
    intro p noOther c d change
    rcases keepsMacros c d change with rfl | ⟨noMacroChar, changedNoMacroChar⟩
    · rfl
    · rw [noOther c noMacroChar, noOther d changedNoMacroChar]
  have sameWord : ∀ c d, related c d → isWordChar d = isWordChar c :=
    sameChar fun c noMacroChar => (Bool.or_eq_false_iff.1 noMacroChar).2
  have sameMark : ∀ c d, related c d → (d == '!') = (c == '!') :=
    sameChar fun c noMacroChar =>
      (Bool.or_eq_false_iff.1 (Bool.or_eq_false_iff.1 noMacroChar).1).2
  obtain ⟨taken, dropped⟩ := takeWhile_dropWhile_of_forall₂ sameWord pairs
  rw [isSome_environmentMacro?, isSome_environmentMacro?]
  generalize rest.takeWhile isWordChar = word, changed.takeWhile isWordChar = changedWord
    at taken ⊢
  generalize rest.dropWhile isWordChar = behind, changed.dropWhile isWordChar = changedBehind
    at dropped ⊢
  congr 1
  · cases taken <;> rfl
  · cases dropped with
    | nil => rfl
    | cons first _ => simpa using sameMark _ _ first

theorem hasMacro_of_forall₂
    {related : Char → Char → Prop} {text changed : Text}
    (keepsMacros : KeepsMacros related)
    (pairs : List.Forall₂ related text changed) :
    hasMacro changed = hasMacro text := by
  induction pairs with
  | nil => rfl
  | @cons c d text changed first later inductionHypothesis =>
      have sameDollar : (d == '$') = (c == '$') := by
        rcases keepsMacros c d first with rfl | ⟨noMacroChar, changedNoMacroChar⟩
        · rfl
        · unfold isMacroChar at noMacroChar changedNoMacroChar
          simp only [Bool.or_eq_false_iff] at noMacroChar changedNoMacroChar
          rw [noMacroChar.1.1, changedNoMacroChar.1.1]
      rw [hasMacro, hasMacro, inductionHypothesis, sameDollar,
        isSome_environmentMacro?_of_forall₂ keepsMacros later]

theorem hasMacro_append
    {front : Text}
    (noDollar : '$' ∉ front)
    (rest : Text) :
    hasMacro (front ++ rest) = hasMacro rest := by
  induction front with
  | nil => rfl
  | cons c front inductionHypothesis =>
      obtain ⟨notDollar, frontNoDollar⟩ : ¬ c = '$' ∧ '$' ∉ front := by
        simpa [eq_comm] using noDollar
      rw [List.cons_append, hasMacro, inductionHypothesis frontNoDollar]
      simp [notDollar]

/-- What replacing macros leaves in front of a text was there before, unless a macro is replaced. -/
theorem exists_of_withoutMacros_eq_cons
    {script changed : Text} {c : Char}
    (replaced : withoutMacros script = c :: changed)
    (notDollar : c ≠ '$')
    (notQuote : c ≠ '\'') :
    ∃ rest, script = c :: rest ∧ withoutMacros rest = changed := by
  cases script with
  | nil =>
      rw [withoutMacros] at replaced
      cases replaced
  | cons d rest =>
      rw [withoutMacros] at replaced
      split at replaced
      · next dollar =>
          split at replaced
          · exact absurd (List.cons.inj replaced).1.symm notQuote
          · exact absurd ((List.cons.inj replaced).1.symm.trans dollar) notDollar
      · obtain ⟨rfl, later⟩ := List.cons.inj replaced
        exact ⟨rest, rfl, later⟩

theorem isSome_environmentMacro?_append
    {word : Text}
    (nonempty : word ≠ [])
    (isWord : ∀ c ∈ word, isWordChar c)
    (behind : Text) :
    (environmentMacro? (word ++ '!' :: behind)).isSome := by
  have notWord : isWordChar '!' = false := by decide +kernel
  have taken : (word ++ '!' :: behind).takeWhile isWordChar = word := by
    rw [List.takeWhile_append_of_pos isWord]
    simp [notWord]
  have dropped : (word ++ '!' :: behind).dropWhile isWordChar = '!' :: behind := by
    rw [List.dropWhile_append_of_pos isWord]
    simp [notWord]
  rw [isSome_environmentMacro?, taken, dropped]
  simp [nonempty]

theorem exists_word_of_withoutMacros
    {script word behind : Text}
    (isWord : ∀ c ∈ word, isWordChar c)
    (replaced : withoutMacros script = word ++ '!' :: behind) :
    ∃ rest, script = word ++ '!' :: rest := by
  induction word generalizing script with
  | nil =>
      obtain ⟨rest, rfl, -⟩ := exists_of_withoutMacros_eq_cons replaced (by decide) (by decide)
      exact ⟨rest, rfl⟩
  | cons c word inductionHypothesis =>
      have different : ∀ {other : Char}, isWordChar other = false → c ≠ other := by
        rintro other noWord rfl
        simp [isWord c List.mem_cons_self] at noWord
      obtain ⟨rest, rfl, later⟩ := exists_of_withoutMacros_eq_cons replaced
        (different (by decide +kernel)) (different (by decide +kernel))
      obtain ⟨behindWord, rfl⟩ := inductionHypothesis
        (fun d member => isWord d (List.mem_cons_of_mem _ member)) later
      exact ⟨behindWord, rfl⟩

theorem hasMacro_withoutMacros (script : Text) : hasMacro (withoutMacros script) = false := by
  have noDollar : ∀ {word : Text}, (∀ c ∈ word, isWordChar c) → '$' ∉ word := by
    intro word isWord member
    exact absurd (isWord '$' member) (by decide +kernel)
  fun_induction withoutMacros script with
  | case1 => rfl
  | case2 rest name behind found inductionHypothesis =>
      obtain ⟨first, later, rfl, word, -⟩ := environmentMacro?_parts found
      have laterNoDollar := noDollar fun c member => word c (List.mem_cons_of_mem _ member)
      have shape : '\'' :: (first :: later).drop 1 ++ '\'' :: '+' :: withoutMacros behind =
          ('\'' :: later ++ ['\'', '+']) ++ withoutMacros behind := by simp
      rw [shape, hasMacro_append, inductionHypothesis]
      simp [laterNoDollar]
  | case3 rest none inductionHypothesis =>
      have stillNone : (environmentMacro? (withoutMacros rest)).isSome = false := by
        refine Bool.eq_false_iff.2 fun isMacro => ?_
        obtain ⟨⟨word, behind⟩, found⟩ := Option.isSome_iff_exists.1 isMacro
        obtain ⟨first, later, rfl, isWord, parts⟩ := environmentMacro?_parts found
        obtain ⟨behindWord, rfl⟩ := exists_word_of_withoutMacros isWord parts
        have before := isSome_environmentMacro?_append (List.cons_ne_nil _ _) isWord behindWord
        rw [none] at before
        cases before
      rw [hasMacro, inductionHypothesis, stillNone]
      rfl
  | case4 c rest notDollar inductionHypothesis =>
      simp [hasMacro, notDollar, inductionHypothesis]

/-! ## No assignment is left -/

theorem not_includes_withoutDoubleColons (line : Text) :
    Text.includes [':', ':'] (withoutDoubleColons line) = false := by
  fun_induction withoutDoubleColons line with
  | case1 rest inductionHypothesis => simp [Text.includes, List.isPrefixOf, inductionHypothesis]
  | case2 c rest notDouble inductionHypothesis =>
      rw [Text.includes, inductionHypothesis, Bool.or_false]
      refine Bool.eq_false_iff.2 fun double => ?_
      obtain ⟨behind, parts⟩ := List.isPrefixOf_iff_prefix.1 double
      obtain ⟨isColon, later⟩ := List.cons.inj parts
      -- A colon that is left behind the first one is a colon of the row.
      unfold withoutDoubleColons at later
      split at later
      · cases (List.cons.inj later).1
      · next d rest _ =>
          obtain ⟨rfl, -⟩ := List.cons.inj later
          exact notDouble rest isColon.symm rfl
      · cases later
  | case3 => rfl

theorem colon_of_arrowChange
    {c : Char}
    (change : ArrowChange c ':') :
    c = ':' := by
  rcases change with same | ⟨-, semicolon⟩ | ⟨-, blank⟩ | ⟨-, comma⟩
  · exact same.symm
  · exact absurd semicolon (by decide)
  · exact absurd blank (by decide)
  · exact absurd comma (by decide)

theorem includes_of_forall₂_arrowChange
    {line changed : Text}
    (pairs : List.Forall₂ ArrowChange line changed)
    (holds : Text.includes [':', ':'] changed) :
    Text.includes [':', ':'] line := by
  induction pairs with
  | nil => exact holds
  | @cons c d line changed first later inductionHypothesis =>
      rw [Text.includes, Bool.or_eq_true] at holds ⊢
      refine holds.imp (fun double => ?_) inductionHypothesis
      rw [List.isPrefixOf_iff_prefix] at double ⊢
      refine Text.isPrefix_of_forall₂ ?_ (List.Forall₂.cons first later).flip double
      intro e member f change
      obtain rfl : e = ':' := by simpa using member
      exact colon_of_arrowChange change

/-! ## No arrow is left -/

theorem find_scan_withoutArrows (script : Text) :
    Arrow.find (scan (withoutArrows script).1).tokens = [] := by
  refine List.eq_nil_iff_forall_not_mem.2 fun arrow member => ?_
  obtain ⟨token, tokenMember, whole, place⟩ := Arrow.mem_find_scan.1 member
  have before : token ∈ (scan script).tokens :=
    mem_tokens_of_sealed (sealed_withoutArrows script) tokenMember whole
  have replaced : arrow ∈ (withoutArrows script).2 := by
    rw [arrows_withoutArrows, Arrow.mem_sort]
    exact Arrow.mem_find_scan.2 ⟨token, before, whole, place⟩
  -- Where an arrow was replaced the text has a semicolon, but an arrow begins with a minus sign.
  have semicolon := (standsIn_withoutArrows replaced).2.1
  have minus := (Arrow.standsIn_of_find_scan member).1
  rw [semicolon] at minus
  exact absurd minus (by decide)

/-! ## Both runs -/

theorem PlainScript.isPlain_text_ofScript (script : Text) : IsPlain (ofScript script).text := by
  rw [text_ofScript]
  constructor
  · rw [hasMacro_of_forall₂ arrowChange_keepsMacros (forall₂_withoutArrows _),
      hasMacro_of_forall₂ assignmentChange_keepsMacros (forall₂_withoutAssignments _)]
    exact hasMacro_withoutMacros script
  · intro line member
    obtain ⟨index, here⟩ := List.mem_iff_getElem?.1 member
    have related := Text.rel_getElem?_of_forall₂ (Text.forall₂_toLines arrowChange_keepsFeeds
      (forall₂_withoutArrows (withoutAssignments (withoutMacros script)).1)) index
    rw [here, toLines_withoutAssignments, List.getElem?_map] at related
    generalize (withoutMacros script).toLines[index]? = original at related
    cases original with
    | none => cases related
    | some original =>
        rw [Option.map_some] at related
        cases related with
        | some pairs =>
            refine Bool.eq_false_iff.2 fun holds => ?_
            have before := includes_of_forall₂_arrowChange pairs holds
            rw [not_includes_withoutDoubleColons] at before
            cases before
  · exact find_scan_withoutArrows _

end Pipescript
