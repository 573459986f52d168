import Muxwire.Text.Utf8.RoundTrip

/-!
# Valid octets

`decode?_eq_some_iff`: octets are read as a string exactly if they are what that string is written
as. So the valid octets are those of strings, and no string has two forms.

A pass without faults (`Clean`) takes one character off at a time: `Clean.leads` finds the
character's own octets in front, by cases on the first of them.
-/

namespace Muxwire.Text.Utf8

/-! ## 1. Passes without faults -/

/-- What was found before stands in front of what is still to be found. -/
theorem scan_eq (state : Option Partial) (found : List (Option Char)) (bs : Octets) :
    scan state found bs = found.reverse ++ scan state [] bs := by
  induction bs generalizing state found with
  | nil => cases state <;> simp [scan]
  | cons b bs ih =>
    simp only [scan]
    rw [ih, ih _ ((feed state b).1.reverse ++ [])]
    simp

/-- From a state on, the octets give these characters and no fault. -/
def Clean (state : Option Partial) (bs : Octets) (cs : List Char) : Prop :=
  scan state [] bs = cs.map some

theorem clean_cons {state : Option Partial} {b : UInt8} {bs : Octets} {cs : List Char} :
    Clean state (b :: bs) cs
      ↔ (feed state b).1 ++ scan (feed state b).2 [] bs = cs.map some := by
  have he := scan_eq (feed state b).2 (feed state b).1.reverse bs
  rw [List.reverse_reverse] at he
  have hs : scan state [] (b :: bs) = scan (feed state b).2 (feed state b).1.reverse bs := by
    simp only [scan, List.append_nil]
  rw [Clean, hs, he]

namespace Clean

variable {bs : Octets} {cs : List Char}

/-- In a character that is begun the next octet is there and in its range. -/
theorem exists_due {p : Partial} (h : Clean (some p) bs cs) :
    ∃ n rest, p.low.toNat ≤ n ∧ n ≤ p.high.toNat ∧ bs = UInt8.ofNat n :: rest
      ∧ feed (some p) (UInt8.ofNat n) =
        (if p.due ≤ 1 then ([some (Char.ofNat (p.code * 64 + (n - 0x80)))], none)
          else ([], some ⟨p.due - 1, 0x80, 0xBF, p.code * 64 + (n - 0x80)⟩)) := by
  cases bs with
  | nil =>
    -- the octets end inside the character: that is a fault
    cases cs <;> simp [Clean, scan] at h
  | cons b rest =>
    by_cases hb : p.low ≤ b ∧ b ≤ p.high
    · have hn : UInt8.ofNat b.toNat = b := UInt8.ofNat_toNat
      refine ⟨b.toNat, rest, UInt8.le_iff_toNat_le.mp hb.1, UInt8.le_iff_toNat_le.mp hb.2, ?_, ?_⟩
      · rw [hn]
      · rw [hn]
        simp only [feed]
        rw [if_pos hb]
    · rw [clean_cons] at h
      have hf : (feed (some p) b).1 = none :: (start b).1 := by
        simp only [feed]
        rw [if_neg hb]
      rw [hf] at h
      cases cs <;> simp at h

/-- The last octet that is due. -/
theorem last {k : Nat} {low high : UInt8} (h : Clean (some ⟨1, low, high, k⟩) bs cs) :
    ∃ n rest cs', low.toNat ≤ n ∧ n ≤ high.toNat ∧ bs = UInt8.ofNat n :: rest
      ∧ cs = Char.ofNat (k * 64 + (n - 0x80)) :: cs' ∧ Clean none rest cs' := by
  obtain ⟨n, rest, lo, hi, rfl, hf⟩ := h.exists_due
  rw [clean_cons, hf] at h
  cases cs with
  | nil => simp at h
  | cons c cs' =>
    simp only [Nat.le_refl, if_true, List.singleton_append, List.map_cons, List.cons.injEq,
      Option.some.injEq] at h
    obtain ⟨rfl, h⟩ := h
    exact ⟨n, rest, cs', lo, hi, rfl, rfl, h⟩

/-- An octet that is due and not the last one. -/
theorem inner {d k : Nat} {low high : UInt8} (h : Clean (some ⟨d + 2, low, high, k⟩) bs cs) :
    ∃ n rest, low.toNat ≤ n ∧ n ≤ high.toNat ∧ bs = UInt8.ofNat n :: rest
      ∧ Clean (some ⟨d + 1, 0x80, 0xBF, k * 64 + (n - 0x80)⟩) rest cs := by
  obtain ⟨n, rest, lo, hi, rfl, hf⟩ := h.exists_due
  have hd : ¬ d + 2 ≤ 1 := by omega
  rw [clean_cons, hf, if_neg hd] at h
  exact ⟨n, rest, lo, hi, rfl, h⟩

/-- A character that is begun by its first octet alone. -/
theorem begun {b : UInt8} {p : Partial} (h : Clean none (b :: bs) cs)
    (first : start b = ([], some p)) : Clean (some p) bs cs := by
  rw [clean_cons] at h
  have hf : feed none b = ([], some p) := first
  rw [hf] at h
  exact h

/-- No fault begins a pass without faults. -/
theorem start_ne {b : UInt8} (h : Clean none (b :: bs) cs) : start b ≠ ([none], none) := by
  intro first
  rw [clean_cons] at h
  have hf : feed none b = ([none], none) := first
  rw [hf] at h
  cases cs <;> simp at h

end Clean

/-! ## 2. The octets of a character -/

/-- The octets of the character with a number, by the range of the number. -/
theorem utf8EncodeChar_ofNat {v : Nat} (h : v.isValidChar) :
    String.utf8EncodeChar (Char.ofNat v) =
      if v ≤ 0x7F then [UInt8.ofNat v]
      else if v ≤ 0x7FF then [UInt8.ofNat (v / 64 % 32 + 192), UInt8.ofNat (v % 64 + 128)]
      else if v ≤ 0xFFFF then [UInt8.ofNat (v / 4096 % 16 + 224), UInt8.ofNat (v / 64 % 64 + 128),
        UInt8.ofNat (v % 64 + 128)]
      else [UInt8.ofNat (v / 262144 % 8 + 240), UInt8.ofNat (v / 4096 % 64 + 128),
        UInt8.ofNat (v / 64 % 64 + 128), UInt8.ofNat (v % 64 + 128)] := by
  have hv : (Char.ofNat v).val.toNat = v := by
    rw [Char.ofNat, dif_pos h]
    rfl
  rw [String.utf8EncodeChar, hv]

/-- Octets in front that are one character, and what a pass without faults finds behind them. -/
def Leads (bs : Octets) (cs : List Char) : Prop :=
  ∃ c cs' rest, cs = c :: cs' ∧ bs = String.utf8EncodeChar c ++ rest ∧ Clean none rest cs'

namespace Clean

variable {bs : Octets} {cs : List Char} {n : Nat} {low high : UInt8}

/-- A character of one octet. -/
theorem leads_one (h : Clean none (UInt8.ofNat n :: bs) cs)
    (first : start (UInt8.ofNat n) = ([some (Char.ofNat n)], none)) (hn : n < 0x80) :
    Leads (UInt8.ofNat n :: bs) cs := by
  rw [clean_cons] at h
  have hf : feed none (UInt8.ofNat n) = ([some (Char.ofNat n)], none) := first
  rw [hf] at h
  cases cs with
  | nil => simp at h
  | cons c cs' =>
    simp only [List.singleton_append, List.map_cons, List.cons.injEq, Option.some.injEq] at h
    obtain ⟨rfl, behind⟩ := h
    refine ⟨_, cs', bs, rfl, ?_, behind⟩
    rw [utf8EncodeChar_ofNat (.inl (by omega)), if_pos (by omega), List.singleton_append]

/-- A character of two octets. -/
theorem leads_two (h : Clean (some ⟨1, 0x80, 0xBF, n - 0xC0⟩) bs cs) (hn : 0xC2 ≤ n)
    (hn' : n < 0xE0) : Leads (UInt8.ofNat n :: bs) cs := by
  obtain ⟨m, rest, cs', lo, hi, rfl, rfl, behind⟩ := h.last
  have lo : 0x80 ≤ m := lo
  have hi : m ≤ 0xBF := hi
  refine ⟨_, cs', rest, rfl, ?_, behind⟩
  have e₁ : ((n - 0xC0) * 64 + (m - 0x80)) / 64 % 32 + 192 = n := by omega
  have e₂ : ((n - 0xC0) * 64 + (m - 0x80)) % 64 + 128 = m := by omega
  rw [utf8EncodeChar_ofNat (.inl (by omega)), if_neg (by omega), if_pos (by omega), e₁, e₂]
  rfl

/-- A character of three octets. The range of the second one keeps out over-long forms and
surrogates. -/
theorem leads_three (h : Clean (some ⟨2, low, high, n - 0xE0⟩) bs cs) (hn : 0xE0 ≤ n)
    (hn' : n < 0xF0)
    (range : ∀ m, low.toNat ≤ m → m ≤ high.toNat → 0x80 ≤ m ∧ m ≤ 0xBF
      ∧ 0x20 ≤ (n - 0xE0) * 64 + (m - 0x80)
      ∧ ((n - 0xE0) * 64 + (m - 0x80) < 0x360 ∨ 0x37F < (n - 0xE0) * 64 + (m - 0x80))) :
    Leads (UInt8.ofNat n :: bs) cs := by
  obtain ⟨m, behind, lo, hi, rfl, inner⟩ := h.inner
  obtain ⟨l, rest, cs', lo', hi', rfl, rfl, behind⟩ := inner.last
  have lo' : 0x80 ≤ l := lo'
  have hi' : l ≤ 0xBF := hi'
  obtain ⟨lo, hi, long, whole⟩ := range m lo hi
  refine ⟨_, cs', rest, rfl, ?_, behind⟩
  generalize hv : ((n - 0xE0) * 64 + (m - 0x80)) * 64 + (l - 0x80) = v
  have valid : v.isValidChar := by
    unfold Nat.isValidChar
    omega
  have e₁ : v / 4096 % 16 + 224 = n := by omega
  have e₂ : v / 64 % 64 + 128 = m := by omega
  have e₃ : v % 64 + 128 = l := by omega
  rw [utf8EncodeChar_ofNat valid, if_neg (by omega), if_neg (by omega), if_pos (by omega), e₁, e₂,
    e₃]
  rfl

/-- A character of four octets. The range of the second one keeps out over-long forms and what is
above 10FFFF. -/
theorem leads_four (h : Clean (some ⟨3, low, high, n - 0xF0⟩) bs cs) (hn : 0xF0 ≤ n)
    (hn' : n < 0xF5)
    (range : ∀ m, low.toNat ≤ m → m ≤ high.toNat → 0x80 ≤ m ∧ m ≤ 0xBF
      ∧ 0x10 ≤ (n - 0xF0) * 64 + (m - 0x80) ∧ (n - 0xF0) * 64 + (m - 0x80) < 0x110) :
    Leads (UInt8.ofNat n :: bs) cs := by
  obtain ⟨m, behind, lo, hi, rfl, inner⟩ := h.inner
  obtain ⟨l, behind, lo', hi', rfl, last⟩ := inner.inner
  obtain ⟨k, rest, cs', lo'', hi'', rfl, rfl, behind⟩ := last.last
  have lo' : 0x80 ≤ l := lo'
  have hi' : l ≤ 0xBF := hi'
  have lo'' : 0x80 ≤ k := lo''
  have hi'' : k ≤ 0xBF := hi''
  obtain ⟨lo, hi, long, small⟩ := range m lo hi
  refine ⟨_, cs', rest, rfl, ?_, behind⟩
  generalize hv : (((n - 0xF0) * 64 + (m - 0x80)) * 64 + (l - 0x80)) * 64 + (k - 0x80) = v
  have valid : v.isValidChar := by
    unfold Nat.isValidChar
    omega
  have e₁ : v / 262144 % 8 + 240 = n := by omega
  have e₂ : v / 4096 % 64 + 128 = m := by omega
  have e₃ : v / 64 % 64 + 128 = l := by omega
  have e₄ : v % 64 + 128 = k := by omega
  rw [utf8EncodeChar_ofNat valid, if_neg (by omega), if_neg (by omega), if_neg (by omega), e₁, e₂,
    e₃, e₄]
  rfl

/-- **The octets of a character stand in front**, wherever a pass without faults starts. -/
theorem leads {b : UInt8} (h : Clean none (b :: bs) cs) : Leads (b :: bs) cs := by
  obtain ⟨n, hn, rfl⟩ : ∃ n, n < 256 ∧ b = UInt8.ofNat n :=
    ⟨b.toNat, b.toNat_lt, UInt8.ofNat_toNat.symm⟩
  have first := start_ofNat hn
  split at first
  · exact h.leads_one first ‹_›
  split at first
  · exact absurd first h.start_ne
  split at first
  · exact (h.begun first).leads_two (by omega) (by omega)
  split at first
  · subst n
    exact (h.begun first).leads_three (n := 0xE0) (by omega) (by omega)
      fun m (lo : 0xA0 ≤ m) (hi : m ≤ 0xBF) => by omega
  split at first
  · subst n
    exact (h.begun first).leads_three (n := 0xED) (by omega) (by omega)
      fun m (lo : 0x80 ≤ m) (hi : m ≤ 0x9F) => by omega
  split at first
  · exact (h.begun first).leads_three (by omega) (by omega)
      fun m (lo : 0x80 ≤ m) (hi : m ≤ 0xBF) => by omega
  split at first
  · subst n
    exact (h.begun first).leads_four (n := 0xF0) (by omega) (by omega)
      fun m (lo : 0x90 ≤ m) (hi : m ≤ 0xBF) => by omega
  split at first
  · exact (h.begun first).leads_four (by omega) (by omega)
      fun m (lo : 0x80 ≤ m) (hi : m ≤ 0xBF) => by omega
  split at first
  · subst n
    exact (h.begun first).leads_four (n := 0xF4) (by omega) (by omega)
      fun m (lo : 0x80 ≤ m) (hi : m ≤ 0x8F) => by omega
  · exact absurd first h.start_ne

end Clean

/-! ## 3. Strings -/

/-- A pass without faults reads what its characters are written as. -/
theorem Clean.eq_flatMap {bs : Octets} {cs : List Char} (h : Clean none bs cs) :
    bs = cs.flatMap String.utf8EncodeChar := by
  induction cs generalizing bs with
  | nil =>
    cases bs with
    | nil => rfl
    | cons b bs =>
      obtain ⟨c, cs', rest, hc, -⟩ := h.leads
      cases hc
  | cons c cs ih =>
    cases bs with
    | nil => cases h
    | cons b bs =>
      obtain ⟨c', cs', rest, hc, hb, hr⟩ := h.leads
      cases hc
      rw [hb, ih hr, List.flatMap_cons]

/-- **Octets are read as a string exactly if the string is written as them.** -/
theorem decode?_eq_some_iff {bs : Octets} {s : String} : decode? bs = some s ↔ bs = encode s := by
  constructor
  · intro h
    unfold decode? at h
    dsimp only at h
    split at h
    · rename_i all
      cases h
      have clean : Clean none bs ((pieces bs).filterMap id) := by
        show pieces bs = _
        generalize pieces bs = ps at all
        induction ps with
        | nil => rfl
        | cons p ps ih =>
          rw [List.all_cons, Bool.and_eq_true] at all
          obtain ⟨c, rfl⟩ := Option.isSome_iff_exists.mp all.1
          simpa using ih all.2
      rw [encode, String.toList_ofList]
      exact clean.eq_flatMap
    · cases h
  · rintro rfl
    exact decode?_encode s

end Muxwire.Text.Utf8
