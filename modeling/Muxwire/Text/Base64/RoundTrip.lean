import Mathlib.Data.List.Basic
import Muxwire.Text.Base64

/-!
# Base 64 read back

**`decode_eq_ok_iff`** -- a text is read as some octets exactly if it is the text of these octets,
so nothing but canonical texts is read, each as what wrote it.

The octets are cut in threes and the text in fours, and the last group of each is apart:
`decodeGroups_eq_ok_iff` is the statement for the groups before it, `decodeTail_encode` and
`eq_encode_of_decodeTail` are the two halves for the last one.
-/

namespace Muxwire.Text.Base64

/-! ## 1. Symbols -/

theorem valueOf?_symbol {n : Nat} (h : n < 64) : valueOf? (symbol n) = some n := by
  have all : ∀ i : Fin 64, valueOf? (symbol i.val) = some i.val := by decide
  exact all ⟨n, h⟩

/-- Only a symbol has a number. -/
theorem eq_symbol_of_valueOf? {b : UInt8} {n : Nat} (h : valueOf? b = some n) :
    b = symbol n ∧ n < 64 := by
  have all : ∀ i : Fin 256, (valueOf? (UInt8.ofNat i.val)).all fun n =>
      UInt8.ofNat i.val = symbol n ∧ n < 64 := by decide +kernel
  have one := all ⟨b.toNat, b.toNat_lt⟩
  rw [UInt8.ofNat_toNat, h] at one
  exact of_decide_eq_true one

/-- Padding is no symbol. -/
theorem symbol_ne_padding {n : Nat} (h : n < 64) : symbol n ≠ padding := by
  intro he
  have hv := valueOf?_symbol h
  rw [he] at hv
  cases hv

/-! ## 2. Three octets and four symbols -/

/-- Four symbols are three octets. -/
theorem triple_eq {a b c d : Nat} (ha : a < 64) (hb : b < 64) (hc : c < 64) (hd : d < 64) :
    ∃ x y z : UInt8, triple a b c d = [x, y, z]
      ∧ (x.toNat * 256 + y.toNat) * 256 + z.toNat = ((a * 64 + b) * 64 + c) * 64 + d := by
  have hl : (triple a b c d).length = 3 := Octets.length_bigEndian _ _
  have hv : Octets.ofBigEndian (triple a b c d) = ((a * 64 + b) * 64 + c) * 64 + d :=
    Octets.ofBigEndian_bigEndian_of_lt (by omega)
  obtain ⟨x, y, z, ht⟩ := List.length_eq_three.mp hl
  refine ⟨x, y, z, ht, ?_⟩
  rw [ht] at hv
  simpa [Octets.ofBigEndian] using hv

/-- Three octets are four symbols. -/
theorem triple_of (x y z : UInt8) {n : Nat} (h : n = (x.toNat * 256 + y.toNat) * 256 + z.toNat) :
    triple (n / 262144) (n / 4096 % 64) (n / 64 % 64) (n % 64) = [x, y, z] := by
  have whole : ((n / 262144 * 64 + n / 4096 % 64) * 64 + n / 64 % 64) * 64 + n % 64 = n := by omega
  have same := Octets.bigEndian_ofBigEndian [x, y, z]
  simp only [triple, whole]
  rw [← same, h]
  simp [Octets.ofBigEndian]

/-- Three octets are written as the symbols that they are. -/
theorem encode_cons {x y z : UInt8} {a b c d : Nat}
    (hn : (x.toNat * 256 + y.toNat) * 256 + z.toNat = ((a * 64 + b) * 64 + c) * 64 + d)
    (hb : b < 64) (hc : c < 64) (hd : d < 64) (rest : Octets) :
    encode (x :: y :: z :: rest)
      = symbol a :: symbol b :: symbol c :: symbol d :: encode rest := by
  generalize hw : ((a * 64 + b) * 64 + c) * 64 + d = n at hn
  have first : n / 262144 = a := by omega
  have second : n / 4096 % 64 = b := by omega
  have third : n / 64 % 64 = c := by omega
  have fourth : n % 64 = d := by omega
  simp only [encode, hn, first, second, third, fourth]

/-- Whole groups are written on their own. -/
theorem encode_append {front : Octets} (h : front.length % 3 = 0) (back : Octets) :
    encode (front ++ back) = encode front ++ encode back := by
  match front, h with
  | [], _ => rfl
  | [_], h => cases h
  | [_, _], h => cases h
  | x :: y :: z :: front, h =>
    have whole : front.length % 3 = 0 := by
      simp only [List.length_cons] at h
      omega
    have ih := encode_append whole back
    simp only [List.cons_append, encode, ih]

theorem length_encode (octets : Octets) : (encode octets).length = (octets.length + 2) / 3 * 4 := by
  match octets with
  | [] => rfl
  | [_] | [_, _] => simp [encode]
  | x :: y :: z :: octets =>
    have ih := length_encode octets
    simp only [encode, List.length_cons, ih]
    omega

/-! ## 3. The groups before the last -/

theorem decodeGroups_symbols {a b c d : Nat} (ha : a < 64) (hb : b < 64) (hc : c < 64)
    (hd : d < 64) (offset : Nat) (found rest : Octets) :
    decodeGroups offset found (symbol a :: symbol b :: symbol c :: symbol d :: rest)
      = decodeGroups (offset + 4) ((triple a b c d).reverse ++ found) rest := by
  rw [decodeGroups]
  simp only [valueOf?_symbol ha, valueOf?_symbol hb, valueOf?_symbol hc, valueOf?_symbol hd]
  rfl

/-- A group that is read is one of four symbols. -/
theorem symbols_of_decodeGroups {w x y z : UInt8} {offset : Nat} {found rest out : Octets}
    (h : decodeGroups offset found (w :: x :: y :: z :: rest) = .ok out) :
    ∃ a b c d, (w = symbol a ∧ a < 64) ∧ (x = symbol b ∧ b < 64) ∧ (y = symbol c ∧ c < 64)
      ∧ (z = symbol d ∧ d < 64) := by
  cases ha : valueOf? w with
  | none => simp only [decodeGroups, ha] at h; cases h
  | some a =>
    cases hb : valueOf? x with
    | none => simp only [decodeGroups, ha, hb] at h; cases h
    | some b =>
      cases hc : valueOf? y with
      | none => simp only [decodeGroups, ha, hb, hc] at h; cases h
      | some c =>
        cases hd : valueOf? z with
        | none => simp only [decodeGroups, ha, hb, hc, hd] at h; cases h
        | some d =>
          exact ⟨a, b, c, d, eq_symbol_of_valueOf? ha, eq_symbol_of_valueOf? hb,
            eq_symbol_of_valueOf? hc, eq_symbol_of_valueOf? hd⟩

/-- **Whole groups are read as the octets that they write.** -/
theorem decodeGroups_eq_ok_iff {text : Octets} (h : text.length % 4 = 0) {offset : Nat}
    {found out : Octets} :
    decodeGroups offset found text = .ok out
      ↔ ∃ octets, octets.length % 3 = 0 ∧ text = encode octets ∧ out = found.reverse ++ octets := by
  match text, h with
  | [], _ =>
    constructor
    · intro h
      cases h
      exact ⟨[], rfl, rfl, (List.append_nil _).symm⟩
    · rintro ⟨octets, -, he, rfl⟩
      have hl := congrArg List.length he
      rw [length_encode, List.length_nil] at hl
      have : octets.length = 0 := by omega
      rw [List.length_eq_zero_iff.mp this, List.append_nil]
      rfl
  | [_], h => cases h
  | [_, _], h => cases h
  | [_, _, _], h => cases h
  | w :: x :: y :: z :: rest, h =>
    have whole : rest.length % 4 = 0 := by
      simp only [List.length_cons] at h
      omega
    constructor
    · intro h
      obtain ⟨a, b, c, d, ⟨rfl, ha⟩, ⟨rfl, hb⟩, ⟨rfl, hc⟩, ⟨rfl, hd⟩⟩ := symbols_of_decodeGroups h
      rw [decodeGroups_symbols ha hb hc hd] at h
      obtain ⟨octets, hl, rfl, rfl⟩ := (decodeGroups_eq_ok_iff whole).mp h
      obtain ⟨p, q, r, ht, hn⟩ := triple_eq ha hb hc hd
      refine ⟨p :: q :: r :: octets, ?_, ?_, by simp [ht]⟩
      · simp only [List.length_cons]
        omega
      · rw [encode_cons hn hb hc hd]
    · rintro ⟨octets, hl, he, rfl⟩
      match octets, hl with
      | [], _ => cases he
      | [_], hl => cases hl
      | [_, _], hl => cases hl
      | p :: q :: r :: octets, hl =>
        have hp := p.toNat_lt
        have hq := q.toNat_lt
        have hr := r.toNat_lt
        obtain ⟨rfl, rfl, rfl, rfl, rfl⟩ : w = _ ∧ x = _ ∧ y = _ ∧ z = _ ∧ rest = _ := by
          simpa only [encode, List.cons.injEq] using he
        rw [decodeGroups_symbols (by omega) (by omega) (by omega) (by omega), triple_of _ _ _ rfl]
        refine (decodeGroups_eq_ok_iff whole).mpr ⟨octets, ?_, rfl, by simp⟩
        simp only [List.length_cons] at hl
        omega

/-! ## 4. The last group -/

/-- Behind padding stands padding only. -/
theorem paddings_of_scanTail {start first p i : Nat} {values : List Nat} {text : Octets}
    {tail : Tail} (pos : 0 < p) (h : scanTail start ⟨values, first, p⟩ i text = .ok tail) :
    ∃ k first', text = List.replicate k padding ∧ tail = ⟨values, first', p + k⟩ := by
  induction text generalizing first p i with
  | nil =>
    cases h
    exact ⟨0, first, rfl, rfl⟩
  | cons b rest ih =>
    rw [scanTail] at h
    split at h
    · rename_i hb
      split at h
      · cases h
      · obtain ⟨k, first', rfl, rfl⟩ := ih (Nat.succ_pos p) h
        refine ⟨k + 1, first', ?_, ?_⟩
        · rw [hb, List.replicate_succ]
        · rw [Nat.succ_add_eq_add_succ]
    · cases h

/-- A last group that is read is some symbols and some padding. -/
theorem symbols_of_scanTail {start first i : Nat} {values : List Nat} {text : Octets} {tail : Tail}
    (h : scanTail start ⟨values, first, 0⟩ i text = .ok tail) :
    ∃ more k first', text = more.map symbol ++ List.replicate k padding
      ∧ tail = ⟨values ++ more, first', k⟩ ∧ ∀ v ∈ more, v < 64 := by
  induction text generalizing values i with
  | nil =>
    cases h
    exact ⟨[], 0, first, rfl, by rw [List.append_nil], nofun⟩
  | cons b rest ih =>
    rw [scanTail] at h
    split at h
    · rename_i hb
      split at h
      · cases h
      · obtain ⟨k, first', rfl, rfl⟩ := paddings_of_scanTail (Nat.succ_pos 0) h
        refine ⟨[], k + 1, first', ?_, ?_, nofun⟩
        · rw [hb, List.map_nil, List.nil_append, List.replicate_succ]
        · rw [List.append_nil, Nat.add_comm]
    · rw [if_neg (Nat.lt_irrefl 0)] at h
      split at h
      · rename_i n hn
        obtain ⟨rfl, lt⟩ := eq_symbol_of_valueOf? hn
        obtain ⟨more, k, first', rfl, rfl, hm⟩ := ih h
        refine ⟨n :: more, k, first', rfl, ?_, List.forall_mem_cons.mpr ⟨lt, hm⟩⟩
        rw [List.append_assoc, List.singleton_append]
      · cases h

theorem decodeTail_of_scanTail {start first k : Nat} {values : List Nat} {text : Octets} :
    scanTail start ⟨[], 0, 0⟩ 0 text = .ok ⟨values, first, k⟩ → decodeTail start text =
      if values.length < 2 then .error (.invalidLength (start + values.length))
      else if (values.length + k) % 4 ≠ 0 then .error .invalidPadding
      else match values with
        | [a, b] =>
          if b % 16 = 0 then .ok ((triple a b 0 0).take 1)
          else .error (.invalidLastSymbol (text.getD 1 0) (start + 1))
        | [a, b, c] =>
          if c % 4 = 0 then .ok ((triple a b c 0).take 2)
          else .error (.invalidLastSymbol (text.getD 2 0) (start + 2))
        | [a, b, c, d] => .ok (triple a b c d)
        | _ => .error .invalidPadding := by
  intro h
  simp only [decodeTail, h]
  rfl

/-- Two symbols without a spare bit are one octet. -/
theorem encode_one {a b : Nat} (ha : a < 64) (hb : b < 64) (low : b % 16 = 0) :
    ∃ x, (triple a b 0 0).take 1 = [x] ∧ encode [x] = [symbol a, symbol b, padding, padding] := by
  obtain ⟨x, y, z, ht, hn⟩ := triple_eq ha hb (c := 0) (d := 0) (by decide) (by decide)
  have hy := y.toNat_lt
  have hz := z.toNat_lt
  have first : x.toNat * 16 / 64 = a := by omega
  have second : x.toNat * 16 % 64 = b := by omega
  refine ⟨x, by rw [ht]; rfl, ?_⟩
  simp only [encode, first, second]

/-- Three symbols without a spare bit are two octets. -/
theorem encode_two {a b c : Nat} (ha : a < 64) (hb : b < 64) (hc : c < 64) (low : c % 4 = 0) :
    ∃ x y, (triple a b c 0).take 2 = [x, y]
      ∧ encode [x, y] = [symbol a, symbol b, symbol c, padding] := by
  obtain ⟨x, y, z, ht, hn⟩ := triple_eq ha hb hc (d := 0) (by decide)
  have hz := z.toNat_lt
  have first : (x.toNat * 256 + y.toNat) * 4 / 4096 = a := by omega
  have second : (x.toNat * 256 + y.toNat) * 4 / 64 % 64 = b := by omega
  have third : (x.toNat * 256 + y.toNat) * 4 % 64 = c := by omega
  refine ⟨x, y, by rw [ht]; rfl, ?_⟩
  simp only [encode, first, second, third]

/-- What is read from a last group is written as that group. -/
theorem eq_encode_of_decodeTail {start : Nat} {text octets : Octets} (h : text.length ≤ 4)
    (hd : decodeTail start text = .ok octets) :
    (0 < octets.length ∧ octets.length ≤ 3) ∧ text = encode octets := by
  cases hs : scanTail start ⟨[], 0, 0⟩ 0 text with
  | error e =>
    simp only [decodeTail, hs] at hd
    cases hd
  | ok tail =>
    obtain ⟨values, k, first, rfl, rfl, hm⟩ := symbols_of_scanTail hs
    rw [List.length_append, List.length_map, List.length_replicate] at h
    rw [decodeTail_of_scanTail hs, List.nil_append] at hd
    split at hd
    · cases hd
    split at hd
    · cases hd
    rename_i four
    match values with
    | [a, b] =>
      obtain ⟨ha, hb⟩ : a < 64 ∧ b < 64 := by simpa using hm
      have hk : k = 2 := by
        simp only [List.length_cons, List.length_nil] at h four
        omega
      dsimp only at hd
      split at hd
      · rename_i low
        obtain ⟨x, ht, hx⟩ := encode_one ha hb low
        cases hd
        rw [ht, hx, hk]
        exact ⟨by simp, rfl⟩
      · cases hd
    | [a, b, c] =>
      obtain ⟨ha, hb, hc⟩ : a < 64 ∧ b < 64 ∧ c < 64 := by simpa using hm
      have hk : k = 1 := by
        simp only [List.length_cons, List.length_nil] at h four
        omega
      dsimp only at hd
      split at hd
      · rename_i low
        obtain ⟨x, y, ht, hx⟩ := encode_two ha hb hc low
        cases hd
        rw [ht, hx, hk]
        exact ⟨by simp, rfl⟩
      · cases hd
    | [a, b, c, d] =>
      obtain ⟨ha, hb, hc, hd'⟩ : a < 64 ∧ b < 64 ∧ c < 64 ∧ d < 64 := by simpa using hm
      have hk : k = 0 := by
        simp only [List.length_cons, List.length_nil] at h
        omega
      obtain ⟨x, y, z, ht, hn⟩ := triple_eq ha hb hc hd'
      cases hd
      rw [ht, encode_cons hn hb hc hd', hk]
      exact ⟨by simp, rfl⟩

/-- **The text of one to three octets is read as a last group.** -/
theorem decodeTail_encode (start : Nat) {octets : Octets} (pos : 0 < octets.length)
    (le : octets.length ≤ 3) : decodeTail start (encode octets) = .ok octets := by
  match octets with
  | [x] =>
    have hx := x.toNat_lt
    have ha : x.toNat * 16 / 64 < 64 := by omega
    have hb : x.toNat * 16 % 64 < 64 := by omega
    have hs : scanTail start ⟨[], 0, 0⟩ 0 (encode [x])
        = .ok ⟨[x.toNat * 16 / 64, x.toNat * 16 % 64], 2, 2⟩ := by
      simp [encode, scanTail, valueOf?_symbol, symbol_ne_padding, ha, hb]
    have ht : triple (x.toNat * 16 / 64) (x.toNat * 16 % 64) 0 0 = [x, 0, 0] := by
      rw [← triple_of x 0 0 rfl]
      congr 1 <;> simp <;> omega
    have low : x.toNat * 16 % 64 % 16 = 0 := by omega
    rw [decodeTail_of_scanTail hs]
    simp [low, ht]
  | [x, y] =>
    have hx := x.toNat_lt
    have hy := y.toNat_lt
    generalize hn : (x.toNat * 256 + y.toNat) * 4 = n
    have ha : n / 4096 < 64 := by omega
    have hb : n / 64 % 64 < 64 := by omega
    have hc : n % 64 < 64 := by omega
    have hs : scanTail start ⟨[], 0, 0⟩ 0 (encode [x, y])
        = .ok ⟨[n / 4096, n / 64 % 64, n % 64], 3, 1⟩ := by
      simp [encode, hn, scanTail, valueOf?_symbol, symbol_ne_padding, ha, hb, hc]
    have ht : triple (n / 4096) (n / 64 % 64) (n % 64) 0 = [x, y, 0] := by
      rw [← triple_of x y 0 rfl]
      congr 1 <;> simp <;> omega
    have low : n % 64 % 4 = 0 := by omega
    rw [decodeTail_of_scanTail hs]
    simp [low, ht]
  | [x, y, z] =>
    have hx := x.toNat_lt
    have hy := y.toNat_lt
    have hz := z.toNat_lt
    generalize hn : (x.toNat * 256 + y.toNat) * 256 + z.toNat = n
    have ha : n / 262144 < 64 := by omega
    have hb : n / 4096 % 64 < 64 := by omega
    have hc : n / 64 % 64 < 64 := by omega
    have hd : n % 64 < 64 := by omega
    have hs : scanTail start ⟨[], 0, 0⟩ 0 (encode [x, y, z])
        = .ok ⟨[n / 262144, n / 4096 % 64, n / 64 % 64, n % 64], 0, 0⟩ := by
      simp [encode, hn, scanTail, valueOf?_symbol, symbol_ne_padding, ha, hb, hc, hd]
    rw [decodeTail_of_scanTail hs]
    simp [triple_of x y z hn.symm]

/-! ## 5. Texts -/

/-- Octets are whole groups of three and a last group. -/
theorem exists_groups {octets : Octets} (h : octets ≠ []) :
    ∃ front back, octets = front ++ back ∧ front.length % 3 = 0 ∧ 0 < back.length
      ∧ back.length ≤ 3 := by
  have pos := List.length_pos_iff.mpr h
  refine ⟨octets.take ((octets.length - 1) / 3 * 3), octets.drop ((octets.length - 1) / 3 * 3),
    (List.take_append_drop _ _).symm, ?_, ?_, ?_⟩
  · rw [List.length_take]
    omega
  · rw [List.length_drop]
    omega
  · rw [List.length_drop]
    omega

/-- A text is read as its groups before the last and its last group. -/
theorem decode_append {front back octets last : Octets} (whole : front.length % 4 = 0)
    (four : back.length = 4) (hf : decodeGroups 0 [] front = .ok octets)
    (hb : decodeTail front.length back = .ok last) :
    decode (front ++ back) = .ok (octets ++ last) := by
  have even : (front.length + 4) % 4 ≠ 1 := by omega
  have some : front.length + 4 ≠ 0 := by omega
  have start : (front.length + 4 - 1) / 4 * 4 = front.length := by omega
  simp only [decode, List.length_append, four, even, false_and, if_false, some, start,
    List.take_left, List.drop_left, hf, hb]

/-- **A text is read as the octets that it is the text of, and as no others.** -/
theorem decode_eq_ok_iff {text octets : Octets} :
    decode text = .ok octets ↔ text = encode octets := by
  constructor
  · intro h
    simp only [decode] at h
    split at h
    · cases h
    split at h
    · rename_i none
      cases h
      exact List.length_eq_zero_iff.mp none
    split at h
    · cases h
    rename_i front hf
    split at h
    · cases h
    rename_i back hb
    cases h
    generalize hs : (text.length - 1) / 4 * 4 = start at hf hb
    have whole : (text.take start).length % 4 = 0 := by
      rw [List.length_take]
      omega
    have last : (text.drop start).length ≤ 4 := by
      rw [List.length_drop]
      omega
    obtain ⟨octets, hl, hfront, ho⟩ := (decodeGroups_eq_ok_iff whole).mp hf
    obtain ⟨-, hback⟩ := eq_encode_of_decodeTail last hb
    have ho : front = octets := ho
    rw [ho, encode_append hl, ← hfront, ← hback, List.take_append_drop]
  · rintro rfl
    by_cases h : octets = []
    · subst h
      rfl
    · obtain ⟨front, back, rfl, hf, pos, le⟩ := exists_groups h
      have whole : (encode front).length % 4 = 0 := by
        rw [length_encode]
        omega
      have four : (encode back).length = 4 := by
        rw [length_encode]
        omega
      have read : decodeGroups 0 [] (encode front) = .ok front :=
        (decodeGroups_eq_ok_iff whole).mpr ⟨front, hf, rfl, rfl⟩
      rw [encode_append hf]
      exact decode_append whole four read (decodeTail_encode _ pos le)

end Muxwire.Text.Base64
