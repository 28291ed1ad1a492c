import HostFacts.Text.Utf8
import HostFacts.Proofs.Text.CodePoint

/-!
# UTF-8 undone

Decoding the bytes of a text without surrogates gives the text, and no bytes are
decoded to a text with surrogates (`isWellFormed_of_decode`). A character is
undone byte by byte: what a first byte begins (`leadOf_two` and the like)
allows the bytes that follow it, and the last of them completes the code
(`decodeFrom_encodeCode`).
-/

namespace HostFacts

namespace Utf8

theorem toNat_byte {n : Nat} (h : n < 256) : (UInt8.ofNat n).toNat = n :=
  UInt8.toNat_ofNat_of_lt h

/-! ## One byte -/

theorem decodeFrom_ascii {b : UInt8} (h : b.toNat < 0x80) (position : Nat) (done : Text)
    (bytes : List UInt8) :
    decodeFrom position none done (b :: bytes)
      = decodeFrom (position + 1) none (.ofCode b.toNat :: done) bytes := by
  rw [decodeFrom]
  exact if_pos h

theorem decodeFrom_lead {b : UInt8} {code missing low high : Nat} (h : ¬ b.toNat < 0x80)
    (hlead : leadOf b = some (code, missing, low, high)) (position : Nat) (done : Text)
    (bytes : List UInt8) :
    decodeFrom position none done (b :: bytes)
      = decodeFrom (position + 1) (some ⟨b, position, 1, code, missing, low, high⟩) done bytes := by
  rw [decodeFrom]
  simp only [if_neg h, hlead]

theorem decodeFrom_more {p : Partial} {b : UInt8} (hlow : p.low ≤ b.toNat)
    (hhigh : b.toNat ≤ p.high) (hmissing : ¬ p.missing ≤ 1) (position : Nat) (done : Text)
    (bytes : List UInt8) :
    decodeFrom position (some p) done (b :: bytes)
      = decodeFrom (position + 1)
          (some { p with
            seen := p.seen + 1, code := p.code * 0x40 + (b.toNat - 0x80),
            missing := p.missing - 1, low := 0x80, high := 0xBF }) done bytes := by
  rw [decodeFrom]
  simp only [hlow, hhigh, hmissing, and_self, if_true, if_false]

theorem decodeFrom_last {p : Partial} {b : UInt8} (hlow : p.low ≤ b.toNat)
    (hhigh : b.toNat ≤ p.high) (hmissing : p.missing ≤ 1) (position : Nat) (done : Text)
    (bytes : List UInt8) :
    decodeFrom position (some p) done (b :: bytes)
      = decodeFrom (position + 1) none (.ofCode (p.code * 0x40 + (b.toNat - 0x80)) :: done)
          bytes := by
  rw [decodeFrom]
  simp only [hlow, hhigh, hmissing, and_self, if_true]

/-! ## One character -/

/-- The first of two bytes. -/
theorem leadOf_two {k : Nat} (hlow : 2 ≤ k) (hhigh : k < 0x20) :
    leadOf (UInt8.ofNat (0xC0 + k)) = some (k, 1, 0x80, 0xBF) := by
  have hb : (UInt8.ofNat (0xC0 + k)).toNat = 0xC0 + k := toNat_byte (by omega)
  unfold leadOf
  simp only [hb]
  rw [if_pos (by omega), Nat.add_sub_cancel_left]

/-- The first of three bytes allows the second one of a code that is no surrogate and does not
fit into two. -/
theorem leadOf_three {k m : Nat} (hk : k < 0x10) (hm : m < 0x40) (hlong : k = 0 → 0x20 ≤ m)
    (hsurrogate : k = 0xD → m < 0x20) :
    ∃ low high, leadOf (UInt8.ofNat (0xE0 + k)) = some (k, 2, low, high)
      ∧ low ≤ 0x80 + m ∧ 0x80 + m ≤ high := by
  have hb : (UInt8.ofNat (0xE0 + k)).toNat = 0xE0 + k := toNat_byte (by omega)
  unfold leadOf
  simp only [hb]
  rw [if_neg (by omega)]
  by_cases h0 : k = 0
  · subst h0
    exact ⟨0xA0, 0xBF, rfl, by omega, by omega⟩
  · by_cases hD : k = 0xD
    · subst hD
      exact ⟨0x80, 0x9F, rfl, by omega, by omega⟩
    · rw [if_neg (by omega), if_neg (by omega), if_pos (by omega)]
      exact ⟨0x80, 0xBF, by simp, by omega, by omega⟩

/-- The first of four bytes allows the second one of a code above U+FFFF. -/
theorem leadOf_four {k m : Nat} (hk : k < 5) (hm : m < 0x40) (hlong : k = 0 → 0x10 ≤ m)
    (hlast : k = 4 → m < 0x10) :
    ∃ low high, leadOf (UInt8.ofNat (0xF0 + k)) = some (k, 3, low, high)
      ∧ low ≤ 0x80 + m ∧ 0x80 + m ≤ high := by
  have hb : (UInt8.ofNat (0xF0 + k)).toNat = 0xF0 + k := toNat_byte (by omega)
  unfold leadOf
  simp only [hb]
  rw [if_neg (by omega), if_neg (by omega), if_neg (by omega), if_neg (by omega)]
  by_cases h0 : k = 0
  · subst h0
    exact ⟨0x90, 0xBF, rfl, by omega, by omega⟩
  · by_cases h4 : k = 4
    · subst h4
      exact ⟨0x80, 0x8F, rfl, by omega, by omega⟩
    · rw [if_neg (by omega), if_pos (by omega)]
      exact ⟨0x80, 0xBF, by simp, by omega, by omega⟩

theorem decodeFrom_encodeCode {c : CodePoint} (hc : c.isSurrogate = false) (position : Nat)
    (done : Text) (bytes : List UInt8) :
    ∃ position', decodeFrom position none done (encodeCode c.code ++ bytes)
      = decodeFrom position' none (c :: done) bytes := by
  have hlimit := c.code_lt
  have hgap := CodePoint.code_of_not_surrogate hc
  have hofCode := CodePoint.ofCode_code c
  generalize c.code = n at hlimit hgap hofCode
  have htail : ∀ m, (UInt8.ofNat (0x80 + m % 0x40)).toNat = 0x80 + m % 0x40 := fun m =>
    toNat_byte (by omega)
  have hleast : ∀ m, 0x80 ≤ (UInt8.ofNat (0x80 + m % 0x40)).toNat := fun m => by
    rw [htail]
    omega
  have hmost : ∀ m, (UInt8.ofNat (0x80 + m % 0x40)).toNat ≤ 0xBF := fun m => by
    rw [htail]
    omega
  unfold encodeCode
  split
  · have hb : (UInt8.ofNat n).toNat = n := toNat_byte (by omega)
    rw [List.singleton_append, decodeFrom_ascii (by omega), hb, hofCode]
    exact ⟨_, rfl⟩
  · split
    · have hb : (UInt8.ofNat (0xC0 + n / 0x40)).toNat = 0xC0 + n / 0x40 := toNat_byte (by omega)
      rw [List.cons_append, List.singleton_append,
        decodeFrom_lead (by omega) (leadOf_two (by omega) (by omega)),
        decodeFrom_last (by exact hleast _) (by exact hmost _) (by simp), htail]
      have hcode : n / 0x40 * 0x40 + (0x80 + n % 0x40 - 0x80) = n := by omega
      simp only [hcode, hofCode]
      exact ⟨_, rfl⟩
    · split
      · have hb : (UInt8.ofNat (0xE0 + n / 0x1000)).toNat = 0xE0 + n / 0x1000 :=
          toNat_byte (by omega)
        obtain ⟨low, high, hlead, hlow, hhigh⟩ := leadOf_three (k := n / 0x1000)
          (m := n / 0x40 % 0x40) (by omega) (by omega) (by omega) (by omega)
        simp only [List.cons_append, List.nil_append]
        rw [decodeFrom_lead (by omega) hlead, decodeFrom_more (by rw [htail]; exact hlow)
            (by rw [htail]; exact hhigh) (by simp),
          decodeFrom_last (by exact hleast _) (by exact hmost _) (by simp), htail,
          htail]
        have hcode : (n / 0x1000 * 0x40 + (0x80 + n / 0x40 % 0x40 - 0x80)) * 0x40
            + (0x80 + n % 0x40 - 0x80) = n := by omega
        simp only [hcode, hofCode]
        exact ⟨_, rfl⟩
      · have hb : (UInt8.ofNat (0xF0 + n / 0x40000)).toNat = 0xF0 + n / 0x40000 :=
          toNat_byte (by omega)
        obtain ⟨low, high, hlead, hlow, hhigh⟩ := leadOf_four (k := n / 0x40000)
          (m := n / 0x1000 % 0x40) (by omega) (by omega) (by omega) (by omega)
        simp only [List.cons_append, List.nil_append]
        rw [decodeFrom_lead (by omega) hlead, decodeFrom_more (by rw [htail]; exact hlow)
            (by rw [htail]; exact hhigh) (by simp),
          decodeFrom_more (by exact hleast _) (by exact hmost _) (by simp),
          decodeFrom_last (by exact hleast _) (by exact hmost _) (by simp), htail,
          htail, htail]
        have hcode : ((n / 0x40000 * 0x40 + (0x80 + n / 0x1000 % 0x40 - 0x80)) * 0x40
            + (0x80 + n / 0x40 % 0x40 - 0x80)) * 0x40 + (0x80 + n % 0x40 - 0x80) = n := by omega
        simp only [hcode, hofCode]
        exact ⟨_, rfl⟩

/-! ## A text -/

theorem decodeFrom_encode {t : Text} (h : t.isWellFormed = true) (position : Nat) (done : Text) :
    decodeFrom position none done (encode t) = .ok (done.reverse ++ t) := by
  induction t generalizing position done with
  | nil => rw [List.append_nil]; rfl
  | cons c t ih =>
      rw [Text.isWellFormed, List.all_cons, Bool.and_eq_true, Bool.not_eq_true'] at h
      obtain ⟨position', hstep⟩ := decodeFrom_encodeCode h.1 position done (encode t)
      rw [encode, List.flatMap_cons]
      refine hstep.trans ?_
      rw [ih h.2, List.reverse_cons, List.append_assoc, List.singleton_append]

theorem decode_encode {t : Text} (h : t.isWellFormed = true) : decode (encode t) = .ok t :=
  decodeFrom_encode h 0 []

/-! ## No surrogates come out -/

/-- Whatever bytes follow, the sequence comes to no surrogate: its code so far is below those of the
surrogates, or above them, with the next byte at either end of its range. -/
def Partial.Avoids (p : Partial) : Prop :=
  0x80 ≤ p.low
    ∧ ∃ first last, ((p.missing ≤ 1 ∧ first = 0xD800 ∧ last = 0xDFFF)
        ∨ (p.missing = 2 ∧ first = 0x360 ∧ last = 0x37F)
        ∨ (p.missing = 3 ∧ first = 0xD ∧ last = 0xD))
      ∧ (p.code * 0x40 + (p.high - 0x80) < first ∨ last < p.code * 0x40 + (p.low - 0x80))

theorem avoids_of_leadOf {b : UInt8} {code missing low high : Nat}
    (h : leadOf b = some (code, missing, low, high)) (position : Nat) :
    (Partial.mk b position 1 code missing low high).Avoids := by
  have hb := b.toNat_lt
  unfold leadOf at h
  simp only at h
  unfold Partial.Avoids
  repeat' split at h
  all_goals
    simp only [Option.some.injEq, Prod.mk.injEq, reduceCtorEq] at h
  all_goals
    obtain ⟨rfl, rfl, rfl, rfl⟩ := h
    dsimp only
    refine ⟨by omega, ?_⟩
  · exact ⟨_, _, .inl ⟨by omega, rfl, rfl⟩, by omega⟩
  · exact ⟨_, _, .inr (.inl ⟨rfl, rfl, rfl⟩), by omega⟩
  · exact ⟨_, _, .inr (.inl ⟨rfl, rfl, rfl⟩), by omega⟩
  · exact ⟨_, _, .inr (.inl ⟨rfl, rfl, rfl⟩), by omega⟩
  · exact ⟨_, _, .inr (.inr ⟨rfl, rfl, rfl⟩), by omega⟩
  · exact ⟨_, _, .inr (.inr ⟨rfl, rfl, rfl⟩), by omega⟩
  · exact ⟨_, _, .inr (.inr ⟨rfl, rfl, rfl⟩), by omega⟩

theorem Partial.Avoids.more {p : Partial} (h : p.Avoids) {b : UInt8} (hlow : p.low ≤ b.toNat)
    (hhigh : b.toNat ≤ p.high) (hmissing : ¬ p.missing ≤ 1) :
    Partial.Avoids { p with
      seen := p.seen + 1, code := p.code * 0x40 + (b.toNat - 0x80),
      missing := p.missing - 1, low := 0x80, high := 0xBF } := by
  obtain ⟨hp, first, last, hcase, hrange⟩ := h
  refine ⟨Nat.le_refl _, ?_⟩
  dsimp only
  rcases hcase with ⟨hone, -, -⟩ | ⟨htwo, rfl, rfl⟩ | ⟨hthree, rfl, rfl⟩
  · exact absurd hone hmissing
  · exact ⟨_, _, .inl ⟨by omega, rfl, rfl⟩, by omega⟩
  · exact ⟨_, _, .inr (.inl ⟨by omega, rfl, rfl⟩), by omega⟩

theorem Partial.Avoids.last {p : Partial} (h : p.Avoids) {b : UInt8} (hlow : p.low ≤ b.toNat)
    (hhigh : b.toNat ≤ p.high) (hmissing : p.missing ≤ 1) :
    (CodePoint.ofCode (p.code * 0x40 + (b.toNat - 0x80))).isSurrogate = false := by
  obtain ⟨hp, first, last, hcase, hrange⟩ := h
  unfold CodePoint.ofCode
  rw [dif_neg (by omega)]
  rfl

theorem isSurrogate_ofCode_ascii {n : Nat} (h : n < 0x80) :
    (CodePoint.ofCode n).isSurrogate = false := by
  unfold CodePoint.ofCode
  rw [dif_neg (by omega)]
  rfl

theorem isWellFormed_of_decodeFrom {position : Nat} {pending : Option Partial} {done t : Text}
    {bytes : List UInt8} (hpending : ∀ p, pending = some p → p.Avoids)
    (hdone : ∀ c ∈ done, c.isSurrogate = false)
    (h : decodeFrom position pending done bytes = .ok t) : t.isWellFormed = true := by
  fun_induction decodeFrom position pending done bytes with
  | case1 position done =>
      cases h
      rw [Text.isWellFormed, List.all_eq_true]
      intro c hc
      rw [hdone c (List.mem_reverse.mp hc)]
      rfl
  | case2 | case4 | case8 => cases h
  | case3 position done b bytes hascii ih =>
      refine ih hpending (fun c hc => ?_) h
      rcases List.mem_cons.mp hc with rfl | hc
      · exact isSurrogate_ofCode_ascii hascii
      · exact hdone c hc
  | case5 position done b bytes hascii code missing low high hlead ih =>
      refine ih (fun p hp => ?_) hdone h
      rw [← Option.some.inj hp]
      exact avoids_of_leadOf hlead position
  | case6 position done b bytes p hrange code hmissing ih =>
      refine ih (fun p' hp' => ?_) (fun c hc => ?_) h
      · cases hp'
      rcases List.mem_cons.mp hc with heq | hc
      · rw [heq]
        exact (hpending p rfl).last hrange.1 hrange.2 hmissing
      · exact hdone c hc
  | case7 position done b bytes p hrange code hmissing ih =>
      refine ih (fun p' hp' => ?_) hdone h
      rw [← Option.some.inj hp']
      exact (hpending p rfl).more hrange.1 hrange.2 hmissing

/-- **Decoded text is well-formed**: no bytes stand for a surrogate. -/
theorem isWellFormed_of_decode {bytes : List UInt8} {t : Text} (h : decode bytes = .ok t) :
    t.isWellFormed = true := by
  have hfrom : decodeFrom 0 none [] bytes = .ok t := h
  refine isWellFormed_of_decodeFrom (fun p hp => ?_) (fun c hc => ?_) hfrom
  · cases hp
  · cases hc

end Utf8

end HostFacts
