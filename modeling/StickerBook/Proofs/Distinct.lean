import StickerBook.Distinct

/-!
# First occurrences

`distinctBy` keeps exactly the elements whose key does not occur before them (`mem_distinctBy_iff`), in their order
(`pairwise_distinctBy`). Which ones it keeps depends only on which keys coincide (`distinctBy_congr`).
-/

namespace StickerBook
set_option autoImplicit false
variable {α κ : Type} [DecidableEq κ] {key : α → κ}

/-- An element is kept exactly if no element before it has its key. -/
theorem mem_distinctBy_iff {as : List α} {a : α} :
    a ∈ distinctBy key as ↔ ∃ front back, as = front ++ a :: back ∧ ∀ b ∈ front, key b ≠ key a := by
  induction as with
  | nil => simp [distinctBy]
  | cons c rest ih =>
    rw [distinctBy, List.mem_cons, List.mem_filter, ih, decide_eq_true_iff]
    constructor
    · rintro (rfl | ⟨⟨front, back, rfl, new⟩, other⟩)
      · exact ⟨[], rest, rfl, by simp⟩
      · refine ⟨c :: front, back, rfl, fun b member => ?_⟩
        rcases List.mem_cons.1 member with rfl | member
        · exact Ne.symm other
        · exact new b member
    · rintro ⟨front, back, parts, new⟩
      cases front with
      | nil => exact Or.inl (List.cons.inj parts).1.symm
      | cons d front =>
        obtain ⟨rfl, rest_eq⟩ := List.cons.inj parts
        exact Or.inr ⟨⟨front, back, rest_eq, fun b member => new b (List.mem_cons_of_mem _ member)⟩,
          Ne.symm (new c List.mem_cons_self)⟩

/-- Elements are kept in their order: up to the first one of a key, none has the key of one that is kept later. -/
theorem pairwise_distinctBy (key : α → κ) (as : List α) : (distinctBy key as).Pairwise fun a b =>
    ∃ front back, as = front ++ a :: back ∧ ∀ c ∈ front ++ [a], key c ≠ key b := by
  induction as with
  | nil => exact .nil
  | cons c rest ih =>
    refine List.pairwise_cons.2 ⟨fun b kept => ?_, (ih.filter _).imp_of_mem fun {a b} _ kept before => ?_⟩
    · have other := of_decide_eq_true (List.mem_filter.1 kept).2
      exact ⟨[], rest, rfl, fun d first => List.mem_singleton.1 first ▸ Ne.symm other⟩
    · obtain ⟨front, back, rfl, new⟩ := before
      have other := of_decide_eq_true (List.mem_filter.1 kept).2
      exact ⟨c :: front, back, rfl, List.forall_mem_cons.2 ⟨Ne.symm other, new⟩⟩

/-- Every element is kept once. -/
theorem mem_distinctBy_id_iff [DecidableEq α] {as : List α} {a : α} : a ∈ distinctBy id as ↔ a ∈ as := by
  constructor
  · exact fun kept => (distinctBy_sublist id as).subset kept
  · intro member
    obtain ⟨b, kept, rfl⟩ : ∃ b ∈ distinctBy id as, id b = id a := exists_mem_distinctBy member
    exact kept

theorem distinctBy_id_nodup [DecidableEq α] (as : List α) : (distinctBy id as).Nodup := by
  simpa using map_distinctBy_nodup id as

/-- Changing all elements commutes with keeping first occurrences. -/
theorem distinctBy_map {β : Type} {key : β → κ} (f : α → β) (as : List α) :
    distinctBy key (as.map f) = (distinctBy (fun a => key (f a)) as).map f := by
  induction as with
  | nil => rfl
  | cons a rest ih =>
    rw [List.map_cons, distinctBy, ih, List.filter_map]
    rfl

/-- Two keys that coincide on the same elements keep the same elements. -/
theorem distinctBy_congr {ι : Type} [DecidableEq ι] {other : α → ι} {as : List α}
    (same : ∀ a ∈ as, ∀ b ∈ as, key a = key b ↔ other a = other b) :
    distinctBy key as = distinctBy other as := by
  induction as with
  | nil => rfl
  | cons a rest ih =>
    have inner := ih fun b left c right => same b (List.mem_cons_of_mem _ left) c (List.mem_cons_of_mem _ right)
    rw [distinctBy, distinctBy, inner]
    refine congrArg (a :: ·) (List.filter_congr fun b member => ?_)
    have later : b ∈ rest := (distinctBy_sublist other rest).subset member
    rw [decide_eq_decide]
    exact not_congr (same b (List.mem_cons_of_mem _ later) a List.mem_cons_self)

/-- Elements of some keys can be left out before or after. -/
theorem distinctBy_filter (key : α → κ) (p : κ → Bool) (as : List α) :
    distinctBy key (as.filter fun a => p (key a)) = (distinctBy key as).filter fun a => p (key a) := by
  induction as with
  | nil => rfl
  | cons a rest ih =>
    cases kept : p (key a) with
    | true => simp [distinctBy, kept, ih, List.filter_filter, Bool.and_comm]
    | false =>
      have same : (distinctBy key rest).filter (fun b => p (key b) && decide (key b ≠ key a))
          = (distinctBy key rest).filter fun b => p (key b) := by
        refine List.filter_congr fun b _ => ?_
        by_cases other : key b = key a
        · simp [other, kept]
        · simp [other]
      rw [distinctBy, List.filter_cons_of_neg (by simp [kept]), List.filter_cons_of_neg (by simp [kept]), ih,
        List.filter_filter, same]

/-- To keep each element once is to leave out its repetitions. -/
theorem distinctBy_id_eq_eraseDups [DecidableEq α] (as : List α) : distinctBy id as = as.eraseDups := by
  match as with
  | [] => rfl
  | a :: rest =>
    have ih := distinctBy_id_eq_eraseDups (rest.filter fun b => decide (b ≠ a))
    have first : distinctBy id (a :: rest) = a :: (distinctBy id rest).filter fun b => decide (b ≠ a) := rfl
    have later : (distinctBy id rest).filter (fun b => decide (b ≠ a))
        = distinctBy id (rest.filter fun b => decide (b ≠ a)) :=
      (distinctBy_filter id (fun b => decide (b ≠ a)) rest).symm
    have others : (fun b => decide (b ≠ a)) = fun b => !b == a := by
      funext b
      rw [Bool.eq_iff_iff]
      simp
    rw [first, later, ih, List.eraseDups_cons, others]
termination_by as.length
decreasing_by exact Nat.lt_succ_of_le (List.length_filter_le _ rest)

section
variable {β : Type} {bs : List β} {label : β → κ} {group : β → List α}

/-- A list put together from groups gives back each group. -/
theorem filter_flatMap_group (labelled : ∀ b ∈ bs, ∀ a ∈ group b, key a = label b) (apart : (bs.map label).Nodup)
    {b : β} (member : b ∈ bs) : (bs.flatMap group).filter (fun a => key a = label b) = group b := by
  induction bs with
  | nil => cases member
  | cons c rest ih =>
    obtain ⟨first, later⟩ := List.forall_mem_cons.1 labelled
    obtain ⟨new, apart⟩ := List.nodup_cons.1 apart
    rw [List.flatMap_cons, List.filter_append]
    rcases List.mem_cons.1 member with rfl | member
    · have own : (group b).filter (fun a => key a = label b) = group b :=
        List.filter_eq_self.2 fun a place => decide_eq_true (first a place)
      have others : (rest.flatMap group).filter (fun a => key a = label b) = [] := by
        refine List.filter_eq_nil_iff.2 fun a place same => new ?_
        obtain ⟨c, there, inside⟩ := List.mem_flatMap.1 place
        rw [← of_decide_eq_true same, later c there a inside]
        exact List.mem_map_of_mem there
      rw [own, others, List.append_nil]
    · have others : (group c).filter (fun a => key a = label b) = [] := by
        refine List.filter_eq_nil_iff.2 fun a place same => new ?_
        rw [← first a place, of_decide_eq_true same]
        exact List.mem_map_of_mem member
      rw [others, List.nil_append, ih later apart member]

/-- Of a list put together from groups, the first element of each group is kept. -/
theorem distinctBy_flatMap (labelled : ∀ b ∈ bs, ∀ a ∈ group b, key a = label b) (apart : (bs.map label).Nodup) :
    distinctBy key (bs.flatMap group) = bs.filterMap fun b => (group b).head? := by
  induction bs with
  | nil => rfl
  | cons c rest ih =>
    obtain ⟨first, later⟩ := List.forall_mem_cons.1 labelled
    obtain ⟨new, apart⟩ := List.nodup_cons.1 apart
    have tail := ih later apart
    rw [List.flatMap_cons, List.filterMap_cons]
    cases head : group c with
    | nil => rw [List.nil_append, tail, List.head?_nil]
    | cons a more =>
      rw [head] at first
      have label_a : key a = label c := first a List.mem_cons_self
      have own : more.filter (fun b => decide (key b ≠ label c)) = [] :=
        List.filter_eq_nil_iff.2 fun b place other => of_decide_eq_true other (first b (List.mem_cons_of_mem _ place))
      have others : (rest.flatMap group).filter (fun b => decide (key b ≠ label c)) = rest.flatMap group := by
        refine List.filter_eq_self.2 fun b place => decide_eq_true fun same => new ?_
        obtain ⟨d, there, inside⟩ := List.mem_flatMap.1 place
        rw [← same, later d there b inside]
        exact List.mem_map_of_mem there
      have kept := distinctBy_filter key (fun k => decide (k ≠ label c)) (more ++ rest.flatMap group)
      rw [List.filter_append, own, others, List.nil_append, tail] at kept
      rw [List.cons_append, distinctBy, label_a, ← kept, List.head?_cons]

end

end StickerBook
