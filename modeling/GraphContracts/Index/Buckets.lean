namespace GraphContracts

/-- The keys in the order in which they came, each with its items in order. -/
abbrev Buckets (α : Type) := List (String × List α)

namespace Buckets

variable {α : Type}

def add (key : String) (a : α) : Buckets α → Buckets α
  | [] => [(key, [a])]
  | (k, as) :: bs => if k = key then (k, as ++ [a]) :: bs else (k, as) :: add key a bs

def fill (key : α → String) (as : List α) (bs : Buckets α) : Buckets α :=
  as.foldl (fun bs a => bs.add (key a) a) bs

def ofItems (key : α → String) (as : List α) : Buckets α :=
  fill key as []

def keys (bs : Buckets α) : List String :=
  bs.map Prod.fst

def items (bs : Buckets α) (key : String) : List α :=
  (bs.lookup key).getD []

theorem items_cons (k key : String) (as : List α) (bs : Buckets α) :
    items ((k, as) :: bs) key = if key = k then as else bs.items key := by
  by_cases h : key = k
  · simp [items, h]
  · simp [items, List.lookup_cons, beq_false_of_ne h, h]

theorem items_add (bs : Buckets α) (k key : String) (a : α) :
    (bs.add k a).items key = if k = key then bs.items key ++ [a] else bs.items key := by
  induction bs with
  | nil =>
    rw [add, items_cons]
    by_cases h : key = k
    · simp [items, h]
    · simp [items, h, Ne.symm h]
  | cons b bs ih =>
    obtain ⟨k', as⟩ := b
    by_cases hk : k' = k
    · subst hk
      by_cases h : key = k' <;> simp [add, items_cons, h, Ne.symm]
    · by_cases h : key = k'
      · subst h
        simp [add, hk, items_cons, Ne.symm hk]
      · simp [add, hk, items_cons, h, ih]

theorem keys_cons (k : String) (as : List α) (bs : Buckets α) :
    keys ((k, as) :: bs) = k :: keys bs := rfl

theorem keys_add (bs : Buckets α) (k : String) (a : α) :
    keys (bs.add k a) = if k ∈ bs.keys then bs.keys else bs.keys ++ [k] := by
  induction bs with
  | nil => rfl
  | cons b bs ih =>
    obtain ⟨k', as⟩ := b
    by_cases hk : k' = k
    · simp [add, keys_cons, hk]
    · simp only [add, hk, if_false, keys_cons, ih, List.mem_cons, Ne.symm hk, false_or]
      split <;> rfl

theorem items_fill (key : α → String) (as : List α) (bs : Buckets α) (k : String) :
    (bs.fill key as).items k = bs.items k ++ as.filter fun a => key a = k := by
  induction as generalizing bs with
  | nil => simp [fill]
  | cons a as ih =>
    have hstep : bs.fill key (a :: as) = (bs.add (key a) a).fill key as := rfl
    rw [hstep, ih, items_add]
    by_cases h : key a = k <;> simp [h]

theorem keys_fill (key : α → String) (as : List α) (bs : Buckets α) :
    (bs.fill key as).keys =
      bs.keys ++ ((as.map key).filter fun k => !bs.keys.contains k).eraseDups := by
  induction as generalizing bs with
  | nil => simp [fill]
  | cons a as ih =>
    have hstep : bs.fill key (a :: as) = (bs.add (key a) a).fill key as := rfl
    rw [hstep, ih, keys_add]
    by_cases h : key a ∈ bs.keys
    · simp [h]
    · -- the new key is passed over from here on, by the buckets and by `eraseDups` alike
      simp [h, List.eraseDups_cons, List.filter_filter, Bool.and_comm, Bool.beq_eq_decide_eq]

theorem items_ofItems (key : α → String) (as : List α) (k : String) :
    (ofItems key as).items k = as.filter fun a => key a = k := by
  rw [ofItems, items_fill]
  rfl

theorem keys_ofItems (key : α → String) (as : List α) :
    (ofItems key as).keys = (as.map key).eraseDups := by
  rw [ofItems, keys_fill]
  simp [keys, List.filter_eq_self.2]

end Buckets

end GraphContracts
