import StickerBook.Proofs.Text.Ascii
import StickerBook.Proofs.Text.Lower

/-!
# Case of ASCII letters and case of all letters

The case of ASCII letters does not matter to the full lower-case mapping (`lower_map_toLower`). So a text that occurs in
another one up to the case of ASCII letters occurs there up to the case of all letters, if its sigmas keep their form
(`lower_isInfix_of_map_toLower`). The converse holds if no character of the one stands in the other in another case
beyond ASCII (`map_toLower_isInfix_of_lower`).
-/

set_option autoImplicit false

namespace StickerBook.Text
variable {c d : Char}

theorem toNat_toLower_capital : ∀ n < 26, (Char.ofNat (65 + n)).toLower.toNat = 65 + n + 32 := by
  decide

/-- The mapping of ASCII letters changes capital letters only. -/
theorem toLower_cases (c : Char) :
    c.toLower = c ∨ 65 ≤ c.toNat ∧ c.toNat ≤ 90 ∧ c.toLower.toNat = c.toNat + 32 := by
  by_cases upper : 65 ≤ c.toNat ∧ c.toNat ≤ 90
  · right
    have image := toNat_toLower_capital (c.toNat - 65) (by omega)
    rw [show 65 + (c.toNat - 65) = c.toNat by omega, Char.ofNat_toNat] at image
    exact ⟨upper.1, upper.2, image⟩
  · left
    unfold Char.toLower
    rw [dif_neg]
    exact fun bounds => upper ⟨bounds.1, bounds.2⟩

/-- Characters that are equal up to the case of ASCII letters are equal, or both belong to ASCII. -/
theorem eq_or_ascii_of_toLower (same : c.toLower = d.toLower) : c = d ∨ c.toNat < 128 ∧ d.toNat < 128 := by
  have numbers : c.toLower.toNat = d.toLower.toNat := by rw [same]
  rcases toLower_cases c with plain | capital <;> rcases toLower_cases d with plain' | capital'
  · exact .inl (plain.symm.trans (same.trans plain'))
  · right
    rw [plain] at numbers
    omega
  · right
    rw [plain'] at numbers
    omega
  · exact .inr ⟨by omega, by omega⟩

theorem toLower_toLower (c : Char) : c.toLower.toLower = c.toLower := by
  rcases toLower_cases c with same | capital
  · rw [same, same]
  · rcases toLower_cases c.toLower with same' | capital'
    · exact same'
    · omega

theorem mem_casedRanges : (0x41, 0x5B) ∈ casedRanges ∧ (0x61, 0x7B) ∈ casedRanges := by
  decide

theorem caseIgnorableRanges_around_letters :
    ∀ r ∈ caseIgnorableRanges, r.2 ≤ 0x41 ∨ 0x5B ≤ r.1 ∧ r.2 ≤ 0x61 ∨ 0x7B ≤ r.1 := by
  decide +kernel

theorem isCased_toLower (c : Char) : isCased c.toLower = isCased c := by
  rcases toLower_cases c with same | capital
  · rw [same]
  · have large : isCased c = true := inRanges_iff.2 ⟨_, mem_casedRanges.1, by simp; omega⟩
    have small : isCased c.toLower = true := inRanges_iff.2 ⟨_, mem_casedRanges.2, by simp; omega⟩
    rw [large, small]

theorem isCaseIgnorable_toLower (c : Char) : isCaseIgnorable c.toLower = isCaseIgnorable c := by
  rcases toLower_cases c with same | capital
  · rw [same]
  · have never {n : Nat} (letter : 0x41 ≤ n ∧ n < 0x5B ∨ 0x61 ≤ n ∧ n < 0x7B) :
        inRanges caseIgnorableRanges n = false := by
      rw [Bool.eq_false_iff, ne_eq, inRanges_iff]
      rintro ⟨r, member, bounds⟩
      have around := caseIgnorableRanges_around_letters r member
      omega
    unfold isCaseIgnorable
    rw [never (by omega), never (by omega)]

theorem lowerChar_toLower (c : Char) : lowerChar c.toLower = lowerChar c := by
  rcases toLower_cases c with same | capital
  · rw [same]
  · rw [lowerChar_ascii (by omega), lowerChar_ascii (by omega), toLower_toLower]

theorem toLower_eq_capitalSigma_iff : c.toLower = capitalSigma ↔ c = capitalSigma := by
  constructor
  · intro same
    have sigma : c.toLower = capitalSigma.toLower := same
    rcases eq_or_ascii_of_toLower sigma with rfl | ⟨-, ascii⟩
    · rfl
    · exact absurd ascii (by decide)
  · rintro rfl
    rfl

theorem startsCased_map_toLower (cs : List Char) : startsCased (cs.map Char.toLower) = startsCased cs := by
  induction cs with
  | nil => rfl
  | cons c rest ih =>
    unfold startsCased at ih ⊢
    cases ignorable : isCaseIgnorable c with
    | true => simpa [isCaseIgnorable_toLower, ignorable] using ih
    | false => simp [isCaseIgnorable_toLower, ignorable, isCased_toLower]

theorem lowerAfter_map_toLower (before cs : List Char) :
    lowerAfter (before.map Char.toLower) (cs.map Char.toLower) = lowerAfter before cs := by
  induction cs generalizing before with
  | nil => rfl
  | cons c rest ih =>
    have later := ih (c :: before)
    rw [List.map_cons] at later ⊢
    have sigma : lowerSigma (before.map Char.toLower) (rest.map Char.toLower) = lowerSigma before rest := by
      rw [lowerSigma, startsCased_map_toLower, startsCased_map_toLower, lowerSigma]
    rw [lowerAfter, later, lowerAfter, sigma, lowerChar_toLower]
    simp only [toLower_eq_capitalSigma_iff]

/-- The case of ASCII letters does not matter to the lower-case form of a text. -/
theorem lower_map_toLower (cs : List Char) : lower (cs.map Char.toLower) = lower cs :=
  lowerAfter_map_toLower [] cs

/-- Without `Σ` each letter is mapped by itself. -/
theorem lower_eq_flatMap {cs : List Char} (without : capitalSigma ∉ cs) : lower cs = cs.flatMap lowerChar := by
  unfold lower
  generalize [] = before
  induction cs generalizing before with
  | nil => rfl
  | cons c rest ih =>
    obtain ⟨other, later⟩ := not_or.1 (mt List.mem_cons.2 without)
    rw [lowerAfter, if_neg (Ne.symm other), ih later, List.flatMap_cons]

/-- A text stands in another one up to the case of ASCII letters, in a piece whose sigmas keep their form. -/
theorem lower_isInfix_of_map_toLower {k front piece back : List Char}
    (same : k.map Char.toLower = piece.map Char.toLower) (kept : KeepsSigmas front piece back) :
    lower k <:+: lower (front ++ piece ++ back) := by
  rw [← lower_map_toLower k, same, lower_map_toLower]
  exact lower_isInfix kept

/-- The characters that can be the lower-case form of a character or part of it. -/
def forms (c : Char) : List Char := if c = capitalSigma then [smallSigma, finalSigma] else lowerChar c

/-- Neither character is another case of the other beyond ASCII: if their lower-case forms can agree, they are equal up
to the case of ASCII letters. -/
def FoldAlike (c d : Char) : Prop := (∃ e ∈ forms c, e ∈ forms d) → c.toLower = d.toLower

/-- Characters of texts that share no letter in any case are not cases of each other. -/
theorem foldAlike_of_disjoint {k n : List Char} (disjoint : ∀ e ∈ k.flatMap forms, e ∉ n.flatMap forms) :
    ∀ c ∈ k, ∀ d ∈ n, FoldAlike c d := by
  rintro c member d member' ⟨e, form, form'⟩
  exact absurd (List.mem_flatMap_of_mem member' form') (disjoint e (List.mem_flatMap_of_mem member form))

theorem capitalDottedI_of_toLower (same : c.toLower = d.toLower) (dotted : c = capitalDottedI) : d = capitalDottedI := by
  rcases eq_or_ascii_of_toLower same with rfl | ⟨ascii, -⟩
  · exact dotted
  · rw [dotted] at ascii
    exact absurd ascii (by decide)

theorem lowerChar_of_ne (plain : c ≠ capitalDottedI) : ∃ e, lowerChar c = [e] := by
  have length := length_lowerChar c
  rw [if_neg plain] at length
  exact List.length_eq_one_iff.1 length

/-- The first letter of a text gives its lower-case form one character; only `İ` gives it two. -/
theorem lowerAfter_cons_cases (before : List Char) (c : Char) (rest : List Char) :
    (c ≠ capitalDottedI ∧ ∃ e ∈ forms c, lowerAfter before (c :: rest) = e :: lowerAfter (c :: before) rest) ∨
      c = capitalDottedI ∧ lowerAfter before (c :: rest) = 'i' :: '\u0307' :: lowerAfter (c :: before) rest := by
  unfold forms
  rw [lowerAfter]
  by_cases sigma : c = capitalSigma
  · left
    refine ⟨by rw [sigma]; decide, lowerSigma before rest, ?_, ?_⟩
    · rw [if_pos sigma, lowerSigma]
      split <;> simp
    · rw [if_pos sigma, List.singleton_append]
  · rw [if_neg sigma, if_neg sigma]
    by_cases dotted : c = capitalDottedI
    · right
      rw [dotted]
      exact ⟨rfl, rfl⟩
    · left
      obtain ⟨e, form⟩ := lowerChar_of_ne dotted
      rw [form]
      exact ⟨dotted, e, List.mem_singleton_self e, rfl⟩

theorem exists_head_lowerAfter (before : List Char) (c : Char) (rest : List Char) :
    ∃ e ∈ forms c, ∃ more, lowerAfter before (c :: rest) = e :: more := by
  rcases lowerAfter_cons_cases before c rest with ⟨-, e, member, parts⟩ | ⟨rfl, parts⟩
  · exact ⟨e, member, _, parts⟩
  · exact ⟨'i', by decide, _, parts⟩

section
variable {k n : List Char}

/-- Where a text begins in another one up to the case of all letters, it does so up to the case of ASCII letters. -/
theorem map_toLower_isPrefix_of_lowerAfter (alike : ∀ c ∈ k, ∀ d ∈ n, FoldAlike c d) {before before' : List Char}
    (starts : lowerAfter before k <+: lowerAfter before' n) : k.map Char.toLower <+: n.map Char.toLower := by
  induction k generalizing n before before' with
  | nil => exact List.nil_prefix
  | cons c k ih =>
    obtain ⟨e, form, more, parts⟩ := exists_head_lowerAfter before c k
    cases n with
    | nil =>
      rw [parts] at starts
      cases List.prefix_nil.1 starts
    | cons d n =>
      obtain ⟨e', form', more', parts'⟩ := exists_head_lowerAfter before' d n
      -- the first characters agree, so the letters they come from are equal up to the case of ASCII letters
      have same : c.toLower = d.toLower := by
        rw [parts, parts', List.cons_prefix_cons] at starts
        exact alike c List.mem_cons_self d List.mem_cons_self ⟨e, form, starts.1 ▸ form'⟩
      have later : lowerAfter (c :: before) k <+: lowerAfter (d :: before') n := by
        rcases lowerAfter_cons_cases before c k with ⟨plain, _, -, first⟩ | ⟨dotted, first⟩ <;>
          rcases lowerAfter_cons_cases before' d n with ⟨plain', _, -, second⟩ | ⟨dotted', second⟩
        · rw [first, second, List.cons_prefix_cons] at starts
          exact starts.2
        · exact absurd (capitalDottedI_of_toLower same.symm dotted') plain
        · exact absurd (capitalDottedI_of_toLower same dotted) plain'
        · rw [first, second, List.cons_prefix_cons, List.cons_prefix_cons] at starts
          exact starts.2.2
      rw [List.map_cons, List.map_cons, List.cons_prefix_cons]
      exact ⟨same, ih (fun c' member d' member' => alike c' (List.mem_cons_of_mem _ member) d'
        (List.mem_cons_of_mem _ member')) later⟩

theorem map_toLower_isInfix_of_lowerAfter (alike : ∀ c ∈ k, ∀ d ∈ n, FoldAlike c d) (filled : k ≠ [])
    {before : List Char} (found : lower k <:+: lowerAfter before n) : k.map Char.toLower <:+: n.map Char.toLower := by
  obtain ⟨c, rest, rfl⟩ := List.exists_cons_of_ne_nil filled
  obtain ⟨e, form, more, parts⟩ := exists_head_lowerAfter [] c rest
  induction n generalizing before with
  | nil =>
    rw [lower, parts] at found
    cases List.infix_nil.1 found
  | cons d n ih =>
    have behind (found : lower (c :: rest) <:+: lowerAfter (d :: before) n) :
        (c :: rest).map Char.toLower <:+: (d :: n).map Char.toLower :=
      List.infix_cons (ih (fun c' member d' member' => alike c' member d' (List.mem_cons_of_mem _ member')) found)
    have here (starts : lower (c :: rest) <+: lowerAfter before (d :: n)) :
        (c :: rest).map Char.toLower <:+: (d :: n).map Char.toLower :=
      (map_toLower_isPrefix_of_lowerAfter alike starts).isInfix
    rcases lowerAfter_cons_cases before d n with ⟨-, e', -, whole⟩ | ⟨dotted, whole⟩
    · rw [whole, List.infix_cons_iff, ← whole] at found
      exact found.elim here behind
    · rw [whole, List.infix_cons_iff, ← whole, List.infix_cons_iff] at found
      rcases found with starts | starts | later
      · exact here starts
      · -- a text does not begin with the dot of an `İ`
        rw [lower, parts, List.cons_prefix_cons] at starts
        have same : c.toLower = d.toLower :=
          alike c List.mem_cons_self d List.mem_cons_self ⟨e, form, by rw [starts.1, dotted]; decide⟩
        have other := capitalDottedI_of_toLower same.symm dotted
        rcases lowerAfter_cons_cases [] c rest with ⟨plain, -⟩ | ⟨-, first⟩
        · exact absurd other plain
        · rw [parts, starts.1] at first
          exact absurd (List.cons_eq_cons.1 first).1 (by decide)
      · exact behind later

/-- What occurs in a text up to the case of all letters occurs there up to the case of ASCII letters, if no character is
another case of one of the text beyond ASCII. -/
theorem map_toLower_isInfix_of_lower (alike : ∀ c ∈ k, ∀ d ∈ n, FoldAlike c d) (found : lower k <:+: lower n) :
    k.map Char.toLower <:+: n.map Char.toLower := by
  cases k with
  | nil => exact List.nil_infix
  | cons c rest => exact map_toLower_isInfix_of_lowerAfter alike (List.cons_ne_nil c rest) found

end

end StickerBook.Text
