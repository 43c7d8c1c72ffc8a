import GraphContracts.Text.Utf8
import GraphContracts.Proofs.Outcome
import Mathlib.Data.List.TakeWhile
import Mathlib.Tactic.SplitIfs

namespace GraphContracts.Text.Utf8

variable {c : Char} {cs : List Char} {b : UInt8} {bs : List UInt8} {lead a v n : Nat}
  {tails more : List Nat}

/-- The octets of a code point: its lead octet and the tails. -/
inductive Sequence : (lead : Nat) → (tails : List Nat) → (v : Nat) → Prop
  | one {lead v : Nat} : v < 0x80 → lead = v → Sequence lead [] v
  | two {lead a v : Nat} : 0x80 ≤ v → v < 0x800 →
    lead = 0xc0 + v / 64 → a = 0x80 + v % 64 → Sequence lead [a] v
  | three {lead a b v : Nat} : 0x800 ≤ v → v < 0x10000 → v < 0xd800 ∨ 0xdfff < v →
    lead = 0xe0 + v / 4096 → a = 0x80 + v / 64 % 64 → b = 0x80 + v % 64 → Sequence lead [a, b] v
  | four {lead a b c v : Nat} : 0x10000 ≤ v → v < 0x110000 →
    lead = 0xf0 + v / 262144 → a = 0x80 + v / 4096 % 64 → b = 0x80 + v / 64 % 64 →
    c = 0x80 + v % 64 → Sequence lead [a, b, c] v

theorem leadLength?_eq_some_iff : leadLength? lead = some n ↔
    lead < 0x80 ∧ n = 1 ∨ (0xc2 ≤ lead ∧ lead < 0xe0) ∧ n = 2 ∨
      (0xe0 ≤ lead ∧ lead < 0xf0) ∧ n = 3 ∨ (0xf0 ≤ lead ∧ lead < 0xf5) ∧ n = 4 := by
  unfold leadLength?
  split_ifs <;> simp only [Option.some.injEq, false_iff] <;> omega

theorem isTail_iff : isTail a = true ↔ 0x80 ≤ a ∧ a ≤ 0xbf := by
  simp [isTail]

theorem allowsSecond_iff : allowsSecond lead a = true ↔ (0x80 ≤ a ∧ a ≤ 0xbf) ∧
    (lead = 0xe0 → 0xa0 ≤ a) ∧ (lead = 0xed → a < 0xa0) ∧ (lead = 0xf0 → 0x90 ≤ a) ∧
      (lead = 0xf4 → a < 0x90) := by
  unfold allowsSecond
  rw [Bool.and_eq_true, isTail_iff]
  split_ifs <;> simp only [decide_eq_true_eq, and_true] <;> omega

theorem goodTails_eq_length_iff : goodTails lead (a :: more) = (a :: more).length ↔
    allowsSecond lead a = true ∧ ∀ t ∈ more, isTail t = true := by
  have hlength : (more.takeWhile isTail).length = more.length ↔ ∀ t ∈ more, isTail t = true := by
    rw [← List.takeWhile_eq_self_iff]
    exact ⟨(List.takeWhile_sublist _).eq_of_length, congrArg List.length⟩
  rw [← hlength, goodTails, List.length_cons]
  cases allowsSecond lead a with
  | false => simp
  | true => simp only [if_true, true_and]; omega

theorem Sequence.combine_eq (h : Sequence lead tails v) : combine lead tails = v := by
  cases h with
  | one _ hlead => exact hlead
  | two | three | four =>
    simp only [combine, List.length_cons, List.length_nil, List.foldl_cons, List.foldl_nil]
    omega

theorem Sequence.isValidChar (h : Sequence lead tails v) : v.isValidChar := by
  show v < 0xd800 ∨ 0xdfff < v ∧ v < 0x110000
  cases h <;> omega

theorem Sequence.announced (h : Sequence lead tails v) :
    leadLength? lead = some (tails.length + 1) := by
  rw [leadLength?_eq_some_iff]
  cases h with
  | one => exact .inl ⟨by omega, rfl⟩
  | two => exact .inr (.inl ⟨by omega, rfl⟩)
  | three => exact .inr (.inr (.inl ⟨by omega, rfl⟩))
  | four => exact .inr (.inr (.inr ⟨by omega, rfl⟩))

theorem Sequence.good (h : Sequence lead tails v) : goodTails lead tails = tails.length := by
  cases h with
  | one => rfl
  | two | three | four =>
    refine goodTails_eq_length_iff.2 ⟨allowsSecond_iff.2 (by omega), ?_⟩
    simp only [List.forall_mem_cons, isTail_iff, List.not_mem_nil, IsEmpty.forall_iff,
      implies_true, and_true]
    try omega

theorem sequence_of_good (hannounced : leadLength? lead = some (tails.length + 1))
    (hgood : goodTails lead tails = tails.length) : ∃ v, Sequence lead tails v := by
  rw [leadLength?_eq_some_iff] at hannounced
  match tails, hannounced, hgood with
  | [], hannounced, _ =>
    simp only [List.length_nil] at hannounced
    exact ⟨lead, .one (by omega) rfl⟩
  | [a], hannounced, hgood =>
    obtain ⟨ha, -⟩ := goodTails_eq_length_iff.1 hgood
    rw [allowsSecond_iff] at ha
    simp only [List.length_nil, List.length_cons] at hannounced
    exact ⟨(lead - 0xc0) * 64 + (a - 0x80), .two (by omega) (by omega) (by omega) (by omega)⟩
  | [a, b], hannounced, hgood =>
    obtain ⟨ha, hb⟩ := goodTails_eq_length_iff.1 hgood
    rw [allowsSecond_iff] at ha
    simp only [List.forall_mem_cons, isTail_iff, List.not_mem_nil, IsEmpty.forall_iff,
      implies_true, and_true] at hb
    simp only [List.length_nil, List.length_cons] at hannounced
    exact ⟨(lead - 0xe0) * 4096 + (a - 0x80) * 64 + (b - 0x80),
      .three (by omega) (by omega) (by omega) (by omega) (by omega) (by omega)⟩
  | [a, b, c], hannounced, hgood =>
    obtain ⟨ha, hbc⟩ := goodTails_eq_length_iff.1 hgood
    rw [allowsSecond_iff] at ha
    simp only [List.forall_mem_cons, isTail_iff, List.not_mem_nil, IsEmpty.forall_iff,
      implies_true, and_true] at hbc
    simp only [List.length_nil, List.length_cons] at hannounced
    exact ⟨(lead - 0xf0) * 262144 + (a - 0x80) * 4096 + (b - 0x80) * 64 + (c - 0x80),
      .four (by omega) (by omega) (by omega) (by omega) (by omega) (by omega)⟩
  | a :: b :: c :: d :: more, hannounced, _ =>
    simp only [List.length_cons] at hannounced
    omega

theorem toNat_ofNat (h : v.isValidChar) : (Char.ofNat v).toNat = v := by
  rw [Char.ofNat, dif_pos h]
  rfl

theorem map_toNat_utf8EncodeChar (h : Sequence lead tails v) :
    (String.utf8EncodeChar (Char.ofNat v)).map UInt8.toNat = lead :: tails := by
  have hv : (Char.ofNat v).val.toNat = v := toNat_ofNat h.isValidChar
  simp only [String.utf8EncodeChar, hv]
  cases h with
  | one _ hlead =>
    rw [if_pos (by omega)]
    simp only [List.map_cons, List.map_nil, UInt8.toNat_ofNat', List.cons.injEq, and_true]
    omega
  | two | three | four =>
    split_ifs <;>
      simp only [List.map_cons, List.map_nil, List.cons.injEq, UInt8.toNat_ofNat', and_true] <;>
      omega

theorem sequence_utf8EncodeChar (c : Char) : ∃ lead tails,
    (String.utf8EncodeChar c).map UInt8.toNat = lead :: tails ∧ Sequence lead tails c.toNat := by
  have hvalid : c.toNat < 0xd800 ∨ 0xdfff < c.toNat ∧ c.toNat < 0x110000 := c.valid
  have hspelled : ∃ lead tails, Sequence lead tails c.toNat := by
    rcases Nat.lt_or_ge c.toNat 0x80 with h₁ | h₁
    · exact ⟨_, _, .one h₁ rfl⟩
    rcases Nat.lt_or_ge c.toNat 0x800 with h₂ | h₂
    · exact ⟨_, _, .two h₁ h₂ rfl rfl⟩
    rcases Nat.lt_or_ge c.toNat 0x10000 with h₃ | h₃
    · exact ⟨_, _, .three h₂ h₃ (by omega) rfl rfl rfl⟩
    · exact ⟨_, _, .four h₃ (by omega) rfl rfl rfl rfl⟩
  obtain ⟨lead, tails, h⟩ := hspelled
  have hmap := map_toNat_utf8EncodeChar h
  rw [Char.ofNat_toNat] at hmap
  exact ⟨lead, tails, hmap, h⟩

theorem decodeFrom_skip (skip position : Nat) (bs : List UInt8) :
    decodeFrom skip position bs = decodeFrom 0 (position + skip) (bs.drop skip) := by
  induction bs generalizing skip position with
  | nil => simp [decodeFrom]
  | cons b bs ih =>
    cases skip with
    | zero => rfl
    | succ skip =>
      rw [decodeFrom, ih, List.drop_succ_cons, Nat.add_right_comm, Nat.add_assoc]

theorem goodTails_le_length (lead : Nat) (tails : List Nat) :
    goodTails lead tails ≤ tails.length := by
  cases tails with
  | nil => exact Nat.le_refl 0
  | cons a more =>
    have hmore := (List.takeWhile_sublist isTail (l := more)).length_le
    rw [goodTails, List.length_cons]
    split <;> omega

theorem map_toNat_injective : Function.Injective (List.map UInt8.toNat) :=
  List.map_injective_iff.2 fun _ _ ↦ UInt8.toNat_inj.1

/-- Where the octets of a character stand in front, that character is read. -/
theorem decodeFrom_append (c : Char) (position : Nat) (more : List UInt8) :
    decodeFrom 0 position (String.utf8EncodeChar c ++ more) =
      (decodeFrom 0 (position + (String.utf8EncodeChar c).length) more).map (c :: ·) := by
  obtain ⟨lead, tails, hmap, h⟩ := sequence_utf8EncodeChar c
  obtain ⟨b, ts, hoctets, rfl, rfl⟩ := List.map_eq_cons_iff.1 hmap
  have hannounced := h.announced
  have hgood := h.good
  rw [List.length_map] at hannounced hgood
  have htake : (ts ++ more).take ts.length = ts := List.take_left
  have hdrop : (ts ++ more).drop ts.length = more := List.drop_left
  simp only [hoctets, List.cons_append, decodeFrom, hannounced, Nat.add_sub_cancel, htake, hgood,
    if_true, h.combine_eq, Char.ofNat_toNat, decodeFrom_skip ts.length, hdrop, List.length_cons]
  rw [Nat.add_right_comm, Nat.add_assoc]

theorem exists_append_of_decodeFrom {position : Nat}
    (h : decodeFrom 0 position bs = .ok (c :: cs)) :
    ∃ more, bs = String.utf8EncodeChar c ++ more := by
  cases bs with
  | nil => cases h
  | cons b bs =>
    simp only [decodeFrom] at h
    split at h
    · cases h
    · rename_i n hannounced
      split at h
      · rename_i hgood
        obtain ⟨rest, -, hread⟩ := map_eq_ok_iff.1 h
        obtain ⟨hc, -⟩ := List.cons.inj hread
        -- all announced tails are there, so these octets are those of one code point
        have hle := goodTails_le_length b.toNat ((bs.take (n - 1)).map (·.toNat))
        have hlength : ((bs.take (n - 1)).map (·.toNat)).length = n - 1 := by
          rw [List.length_map, List.length_take] at hle ⊢
          omega
        have hpos := leadLength?_eq_some_iff.1 hannounced
        have hcount : leadLength? b.toNat =
            some (((bs.take (n - 1)).map (·.toNat)).length + 1) := by
          rw [hlength, hannounced]
          congr 1
          omega
        obtain ⟨v, hsequence⟩ := sequence_of_good hcount (hgood.trans hlength.symm)
        have hmap := map_toNat_utf8EncodeChar hsequence
        rw [← hsequence.combine_eq, hc] at hmap
        have hoctets : String.utf8EncodeChar c = b :: bs.take (n - 1) :=
          map_toNat_injective (by rw [hmap, List.map_cons])
        exact ⟨bs.drop (n - 1), by rw [hoctets, List.cons_append, List.take_append_drop]⟩
      · split at h <;> cases h

/-- Octets are read as a text exactly where they are the octets of that text. -/
theorem decodeFrom_eq_ok_iff {position : Nat} :
    decodeFrom 0 position bs = .ok cs ↔ bs = cs.flatMap String.utf8EncodeChar := by
  constructor
  · intro h
    induction cs generalizing bs position with
    | nil =>
      cases bs with
      | nil => rfl
      | cons b bs =>
        simp only [decodeFrom] at h
        split at h
        · cases h
        · split at h
          · obtain ⟨rest, -, hread⟩ := map_eq_ok_iff.1 h
            cases hread
          · split at h <;> cases h
    | cons c cs ih =>
      obtain ⟨more, rfl⟩ := exists_append_of_decodeFrom h
      rw [decodeFrom_append] at h
      obtain ⟨rest, hmore, hread⟩ := map_eq_ok_iff.1 h
      cases hread
      rw [List.flatMap_cons, ih hmore]
  · rintro rfl
    induction cs generalizing position with
    | nil => rfl
    | cons c cs ih => rw [List.flatMap_cons, decodeFrom_append, ih, Except.map]

theorem toList_toUTF8 (s : String) :
    s.toUTF8.data.toList = s.toList.flatMap String.utf8EncodeChar := by
  calc s.toUTF8.data.toList
      = (String.ofList s.toList).toUTF8.data.toList := by rw [String.ofList_toList]
    _ = s.toList.flatMap String.utf8EncodeChar := by
      rw [String.toUTF8_eq_toByteArray, String.toByteArray_ofList, List.utf8Encode,
        List.toList_data_toByteArray]

theorem readText_eq_ok_iff {text : String} : readText bs = .ok text ↔ ∃ s : String,
    s.toUTF8.data.toList = bs ∧ String.ofList (normalizeNewlines s.toList) = text := by
  rw [readText, map_eq_ok_iff]
  simp only [decode, decodeFrom_eq_ok_iff, toList_toUTF8]
  constructor
  · rintro ⟨cs, rfl, rfl⟩
    exact ⟨String.ofList cs, by rw [String.toList_ofList], by rw [String.toList_ofList]⟩
  · rintro ⟨s, rfl, rfl⟩
    exact ⟨s.toList, rfl, rfl⟩

theorem normalizeNewlines_eq_self (h : '\r' ∉ cs) : normalizeNewlines cs = cs := by
  fun_induction normalizeNewlines cs with
  | case1 => rfl
  | case2 cs ih => simp at h
  | case3 c cs _ ih =>
    have hc : c ≠ '\r' := fun he ↦ h (he ▸ List.mem_cons_self)
    rw [if_neg hc, ih fun hcs ↦ h (List.mem_cons_of_mem _ hcs)]

theorem readText_toUTF8 {s : String} (h : '\r' ∉ s.toList) :
    readText s.toUTF8.data.toList = .ok s :=
  readText_eq_ok_iff.2 ⟨s, rfl, by rw [normalizeNewlines_eq_self h, String.ofList_toList]⟩

end GraphContracts.Text.Utf8
