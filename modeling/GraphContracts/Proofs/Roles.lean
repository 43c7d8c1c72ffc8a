import GraphContracts.Index.Roles
import Mathlib.Data.Int.Bitwise
import Mathlib.Data.List.Nodup
import Mathlib.Data.Set.List

namespace GraphContracts

theorem ne_iff_testBit {a b : ℕ} : a ≠ b ↔ ∃ i, a.testBit i ≠ b.testBit i := by
  constructor
  · exact Nat.exists_testBit_ne_of_ne
  · intro ⟨i, hi⟩ heq
    exact hi (by rw [heq])

theorem land_ne_zero_iff {a b : ℕ} :
    a &&& b ≠ 0 ↔ ∃ i, a.testBit i = true ∧ b.testBit i = true := by
  rw [ne_iff_testBit]
  refine exists_congr fun i ↦ ?_
  rw [Nat.testBit_and, Nat.zero_testBit]
  cases a.testBit i <;> cases b.testBit i <;> simp

theorem land_ne_left_iff {a b : ℕ} :
    a &&& b ≠ a ↔ ∃ i, a.testBit i = true ∧ b.testBit i = false := by
  rw [ne_iff_testBit]
  refine exists_congr fun i ↦ ?_
  rw [Nat.testBit_and]
  cases a.testBit i <;> cases b.testBit i <;> simp

/-- Two integers share a bit where both have it, negative ones in two's complement. -/
theorem sharesBit_iff {a b : Int} :
    sharesBit a b = true ↔ ∃ i, a.testBit i = true ∧ b.testBit i = true := by
  cases a with
  | ofNat a =>
    cases b with
    | ofNat b => simpa [sharesBit, Int.testBit] using land_ne_zero_iff
    | negSucc b => simpa [sharesBit, Int.testBit] using land_ne_left_iff
  | negSucc a =>
    cases b with
    | ofNat b => simpa [sharesBit, Int.testBit, and_comm] using land_ne_left_iff (a := b) (b := a)
    | negSucc b =>
      -- both have every bit from some place on
      have ha : a.testBit (a + b) = false :=
        Nat.testBit_eq_false_of_lt ((Nat.le_add_right a b).trans_lt Nat.lt_two_pow_self)
      have hb : b.testBit (a + b) = false :=
        Nat.testBit_eq_false_of_lt ((Nat.le_add_left b a).trans_lt Nat.lt_two_pow_self)
      exact iff_of_true rfl ⟨a + b, by simp [Int.testBit, ha, hb]⟩

theorem testBit_two_pow {k i : ℕ} : (2 ^ k : Int).testBit i = decide (k = i) := by
  have hcast : (2 ^ k : Int) = ((2 ^ k : ℕ) : Int) := by norm_cast
  rw [hcast]
  exact Nat.testBit_two_pow

theorem sharesBit_two_pow (a : Int) (k : ℕ) : sharesBit a (2 ^ k) = a.testBit k := by
  rw [Bool.eq_iff_iff, sharesBit_iff]
  simp [testBit_two_pow]

theorem isSingleBit_iff {b : Int} : isSingleBit b = true ↔ ∃ k : ℕ, b = 2 ^ k := by
  cases b with
  | ofNat n =>
    have hpow : (n ≠ 0 ∧ n &&& (n - 1) = 0) ↔ ∃ k, n = 2 ^ k :=
      Nat.ne_zero_and_sub_one_eq_zero_iff_isPowerOfTwo
    have hcast : ∀ k : ℕ, (Int.ofNat n = 2 ^ k ↔ n = 2 ^ k) := by
      intro k
      rw [Int.ofNat_eq_natCast]
      norm_cast
    simp only [isSingleBit, Bool.and_eq_true, decide_eq_true_eq, hcast, hpow]
  | negSucc n =>
    refine iff_of_false nofun ?_
    intro ⟨k, hk⟩
    have hpos : (0 : Int) < 2 ^ k := Int.pow_pos (by decide)
    rw [← hk] at hpos
    cases hpos

theorem lookup_eq_some_iff_mem {β : Type} {l : List (String × β)} (h : (l.map Prod.fst).Nodup)
    {k : String} {b : β} : l.lookup k = some b ↔ (k, b) ∈ l := by
  rw [List.lookup_eq_some_iff]
  constructor
  · intro ⟨before, after, he, _⟩
    rw [he]
    exact List.mem_append_right _ List.mem_cons_self
  · intro hmem
    obtain ⟨before, after, he⟩ := List.append_of_mem hmem
    refine ⟨before, after, he, fun p hp ↦ ?_⟩
    rw [he, List.map_append, List.nodup_append] at h
    have hne : p.1 ≠ k := h.2.2 p.1 (List.mem_map_of_mem hp) k (by simp)
    exact bne_iff_ne.2 hne.symm

namespace RoleSchema

open Schema

variable {es : Entries} {d : Datum} {s : RoleSchema}

/-- Each flag is a single bit, and one of the flags is the definition. -/
structure IsNumbered (s : RoleSchema) : Prop where
  singleBit : ∀ f ∈ s.flags, ∃ k : ℕ, f.2 = 2 ^ k
  definition : s.definitionRole ∈ s.flags.map Prod.fst

def readTypes (es : Entries) : Checked RoleSchema :=
  RoleSchema.mk <$> withDefault ["flags"] defaultFlags (mapping integer) es <*>
    withDefault ["definition_role"] "Definition" text es <*>
    withDefault ["reference_mask"] 14 integer es <*>
    withDefault ["bare_is_reference"] true boolean es

theorem checkFlags_eq_valid {flags checked : List (String × Int)} :
    checkFlags flags d = .valid checked ↔
      flags = checked ∧ ∀ f ∈ flags, ∃ k : ℕ, f.2 = 2 ^ k := by
  unfold checkFlags
  split
  · rename_i hnone
    have hbits : ∀ f ∈ flags, ∃ k : ℕ, f.2 = 2 ^ k := by
      intro f hf
      have hsingle := List.find?_eq_none.1 hnone f hf
      exact isSingleBit_iff.1 (by simpa using hsingle)
    rw [Checked.valid.injEq, and_iff_left hbits]
  · rename_i name bit hsome
    refine iff_of_false nofun ?_
    intro ⟨_, hbits⟩
    have hno := List.find?_some hsome
    have hsingle := isSingleBit_iff.2 (hbits _ (List.mem_of_find?_eq_some hsome))
    simp [hsingle] at hno

theorem readFlags_eq_valid {flags : List (String × Int)} :
    withDefault ["flags"] defaultFlags
        (fun d ↦ (mapping integer d).andThen fun flags ↦ checkFlags flags d) es = .valid flags ↔
      withDefault ["flags"] defaultFlags (mapping integer) es = .valid flags ∧
        ∀ f ∈ flags, ∃ k : ℕ, f.2 = 2 ^ k := by
  have hdefault : ∀ f ∈ defaultFlags, ∃ k : ℕ, f.2 = 2 ^ k := by
    intro f hf
    have hall : ∀ f ∈ defaultFlags, isSingleBit f.2 = true := by decide
    exact isSingleBit_iff.1 (hall f hf)
  simp only [withDefault_eq_valid, Checked.andThen_eq_valid, checkFlags_eq_valid]
  constructor
  · intro h
    obtain ⟨hnone, rfl⟩ | ⟨n, d, hd, read, hread, rfl, hbits⟩ := h
    · exact ⟨.inl ⟨hnone, rfl⟩, hdefault⟩
    · exact ⟨.inr ⟨n, d, hd, hread⟩, hbits⟩
  · intro hfound
    obtain ⟨⟨hnone, rfl⟩ | ⟨n, d, hd, hread⟩, hbits⟩ := hfound
    · exact .inl ⟨hnone, rfl⟩
    · exact .inr ⟨n, d, hd, flags, hread, rfl, hbits⟩

theorem ofFields_eq_valid : ofFields es = .valid s ↔
    readTypes es = .valid s ∧ ∀ f ∈ s.flags, ∃ k : ℕ, f.2 = 2 ^ k := by
  simp only [ofFields, readTypes, Functor.map, Seq.seq, Checked.seq_eq_valid,
    Checked.map_eq_valid, readFlags_eq_valid]
  constructor
  · intro h
    obtain ⟨_, bare, ⟨_, mask, ⟨_, role, ⟨flags, ⟨hflags, hbits⟩, rfl⟩, hrole, rfl⟩, hmask, rfl⟩,
      hbare, rfl⟩ := h
    exact ⟨⟨_, bare, ⟨_, mask, ⟨_, role, ⟨flags, hflags, rfl⟩, hrole, rfl⟩, hmask, rfl⟩, hbare,
      rfl⟩, hbits⟩
  · intro h
    obtain ⟨⟨_, bare, ⟨_, mask, ⟨_, role, ⟨flags, hflags, rfl⟩, hrole, rfl⟩, hmask, rfl⟩, hbare,
      rfl⟩, hbits⟩ := h
    exact ⟨_, bare, ⟨_, mask, ⟨_, role, ⟨flags, ⟨hflags, hbits⟩, rfl⟩, hrole, rfl⟩, hmask, rfl⟩,
      hbare, rfl⟩

/-- A record is accepted exactly where its fields have their types and its flags are numbered. -/
theorem ofDatum_map_eq_valid :
    ofDatum (.map es) = .valid s ↔ readTypes es = .valid s ∧ s.IsNumbered := by
  have hread : ofDatum (.map es) = ofEntries es := rfl
  have hkeys : (s.flags.lookup s.definitionRole).isSome = true ↔
      s.definitionRole ∈ s.flags.map Prod.fst := by
    rw [Option.isSome_iff_ne_none, ne_eq, List.lookup_eq_none_iff, List.mem_map]
    simp only [not_forall, bne_iff_ne, ne_eq, not_not, exists_prop]
    exact exists_congr fun f ↦ and_congr_right fun _ ↦ eq_comm
  rw [hread, ofEntries, Checked.andThen_eq_valid]
  constructor
  · intro ⟨read, hfields, hcheck⟩
    split at hcheck
    · rename_i hsome
      obtain rfl := Checked.valid.inj hcheck
      have htypes := ofFields_eq_valid.1 hfields
      exact ⟨htypes.1, htypes.2, hkeys.1 hsome⟩
    · cases hcheck
  · intro ⟨htypes, hnumbered⟩
    refine ⟨s, ofFields_eq_valid.2 ⟨htypes, hnumbered.singleBit⟩, ?_⟩
    rw [if_pos (hkeys.2 hnumbered.definition)]

theorem nodup_of_readTypes (h : readTypes es = .valid s) : (s.flags.map Prod.fst).Nodup := by
  simp only [readTypes, Functor.map, Seq.seq, Checked.seq_eq_valid, Checked.map_eq_valid] at h
  obtain ⟨_, _, ⟨_, _, ⟨_, _, ⟨flags, hflags, rfl⟩, -, rfl⟩, -, rfl⟩, -, rfl⟩ := h
  obtain ⟨-, rfl⟩ | ⟨n, d, -, hread⟩ := withDefault_eq_valid.1 hflags
  · show (defaultFlags.map Prod.fst).Nodup
    decide
  · cases d with
    | map es =>
      obtain ⟨pairs, -, rfl⟩ := Checked.map_eq_valid.1 hread
      exact nodup_assignAll pairs
    | _ => cases hread

/-- The flags of a schema with the places of their bits, and the place of the definition. -/
structure Placed (s : RoleSchema) (bits : List (String × ℕ)) (place : ℕ) : Prop where
  flags : s.flags = bits.map fun f ↦ (f.1, 2 ^ f.2)
  nodup : (bits.map Prod.fst).Nodup
  definition : (s.definitionRole, place) ∈ bits

theorem exists_placed (h : ofDatum d = .valid s) : ∃ bits place, s.Placed bits place := by
  cases d with
  | map es =>
    obtain ⟨htypes, hsingle, hdefinition⟩ := ofDatum_map_eq_valid.1 h
    have hnodup := nodup_of_readTypes htypes
    have hrange : s.flags ∈ Set.range (List.map fun f : String × ℕ ↦ (f.1, (2 ^ f.2 : Int))) := by
      rw [Set.range_list_map]
      intro f hf
      obtain ⟨k, hk⟩ := hsingle f hf
      exact ⟨(f.1, k), Prod.ext rfl hk.symm⟩
    obtain ⟨bits, hbits⟩ := hrange
    have hnames : s.flags.map Prod.fst = bits.map Prod.fst := by
      rw [← hbits, List.map_map]
      rfl
    rw [hnames] at hnodup hdefinition
    obtain ⟨f, hf, hrole⟩ := List.mem_map.1 hdefinition
    exact ⟨bits, f.2, hbits.symm, hnodup, hrole ▸ hf⟩
  | _ => cases h

namespace Placed

variable {bits : List (String × ℕ)} {place : ℕ} {n : String} {k : ℕ} {r : Int}

theorem lookup_eq (h : s.Placed bits place) (hn : (n, k) ∈ bits) :
    s.flags.lookup n = some (2 ^ k) := by
  have hnames : (s.flags.map Prod.fst).Nodup := by
    rw [h.flags, List.map_map]
    exact h.nodup
  rw [lookup_eq_some_iff_mem hnames, h.flags]
  exact List.mem_map.2 ⟨(n, k), hn, rfl⟩

theorem isDefinition_eq (h : s.Placed bits place) (r : Int) :
    s.isDefinition r = r.testBit place := by
  rw [isDefinition, definitionBit, h.lookup_eq h.definition, Option.getD_some, sharesBit_two_pow]

theorem isReference_iff (h : s.Placed bits place) : s.isReference r = true ↔
    (∃ i, r.testBit i = true ∧ s.referenceMask.testBit i = true) ∨
      s.bareIsReference = true ∧ r.testBit place = false := by
  rw [isReference, Bool.or_eq_true, sharesBit_iff, Bool.and_eq_true, h.isDefinition_eq,
    Bool.not_eq_true']

theorem names_eq (h : s.Placed bits place) (r : Int) :
    s.names r = ((bits.filter fun f ↦ r.testBit f.2).map Prod.fst) ++
      if s.isReference r then ["Reference"] else [] := by
  rw [names, h.flags, List.filter_map, List.map_map]
  simp only [Function.comp_def, sharesBit_two_pow]

theorem mem_names_iff (h : s.Placed bits place) : n ∈ s.names r ↔
    (∃ k, (n, k) ∈ bits ∧ r.testBit k = true) ∨ n = "Reference" ∧ s.isReference r = true := by
  rw [h.names_eq, List.mem_append]
  refine or_congr ?_ ?_
  · simp
  · cases s.isReference r <;> simp

/-- A name is repeated exactly where a flag that is set has the name of the derived role, and the
number is a reference as well. -/
theorem nodup_names_iff (h : s.Placed bits place) : (s.names r).Nodup ↔
    ¬(s.isReference r = true ∧ ∃ k, ("Reference", k) ∈ bits ∧ r.testBit k = true) := by
  have hflags : ((bits.filter fun f ↦ r.testBit f.2).map Prod.fst).Nodup :=
    h.nodup.sublist (List.Sublist.map _ List.filter_sublist)
  have hmem : "Reference" ∈ (bits.filter fun f ↦ r.testBit f.2).map Prod.fst ↔
      ∃ k, ("Reference", k) ∈ bits ∧ r.testBit k = true := by
    simp
  rw [h.names_eq]
  cases s.isReference r with
  | false => simpa using hflags
  | true =>
    rw [if_pos rfl, List.nodup_append, ← hmem]
    simp only [hflags, List.nodup_singleton, true_and, List.mem_singleton, forall_eq]
    constructor
    · intro hne hin
      exact hne _ hin rfl
    · intro hout n hn he
      exact hout (he ▸ hn)

theorem isDefinition_or_isReference (hbare : s.bareIsReference = true) (r : Int) :
    s.isDefinition r = true ∨ s.isReference r = true := by
  rw [isReference, hbare]
  cases s.isDefinition r <;> simp

end Placed

end RoleSchema

end GraphContracts
