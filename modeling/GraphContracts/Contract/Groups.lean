namespace GraphContracts

variable {κ α : Type} [DecidableEq κ]

/-- The keys in the order in which they come first, each with its items in order. -/
def groupByKey (pairs : List (κ × α)) : List (κ × List α) :=
  (pairs.map Prod.fst).eraseDups.map fun k =>
    (k, (pairs.filter fun (key, _) => key = k).map Prod.snd)

def repeatedKeys (pairs : List (κ × α)) : List (κ × List α) :=
  (groupByKey pairs).filter fun (_, items) => 1 < items.length

theorem mem_group {pairs : List (κ × α)} {k : κ} {items : List α}
    (h : (k, items) ∈ groupByKey pairs) {a : α} : a ∈ items ↔ (k, a) ∈ pairs := by
  obtain ⟨k', -, hk⟩ := List.mem_map.1 h
  obtain ⟨rfl, rfl⟩ := Prod.mk.inj hk
  simp

end GraphContracts
