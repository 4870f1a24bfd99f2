import HostPreflight.Text.Utf8
import Mathlib.Data.List.Basic

/-!
# Decoding UTF-8

The lenient decoder undoes the encoder, and it never mistakes anything for ASCII: an ASCII
octet always stands for its character, breaking off whatever was begun before it, and an ASCII
character of the decoded text always comes from its octet.  So an ASCII piece of a decoded
text cuts the octets in two, whose texts do not depend on each other.

## Main definitions

* `continuations more` — how many characters the octets to come can tell apart.
* `Pending.Sound` — which characters may complete what has begun.

## Main statements

* `decodeFrom_append_ascii` — an ASCII octet cuts the octets in two.
* `decodeUnits_encode`, `decode?_encode`, `decodeLossy_encode` — decoding undoes encoding.
* `exists_of_decodeLossy_eq_append` — an ASCII piece of the text is a piece of the octets.
-/

namespace HostPreflight.Text.Utf8

/-! ## One octet after another -/

theorem decodeFrom_cons (pending : Pending) (octet : UInt8) (octets : List UInt8) :
    decodeFrom pending (octet :: octets) =
      (advance pending octet).1 ++ decodeFrom (advance pending octet).2 octets := by
  cases pending <;> rfl

variable {bits more : Nat} {low high octet : UInt8}

/-- The last octet of a character completes it. -/
theorem decodeFrom_inside_zero (within : low ≤ octet ∧ octet ≤ high) (octets : List UInt8) :
    decodeFrom (.inside bits low high 0) (octet :: octets) =
      some (Char.ofNat (bits * 64 + (octet.toNat - 0x80))) :: decodeFrom .start octets := by
  simp [decodeFrom, advance, within]

/-- Any other octet of a character leaves one octet less to come. -/
theorem decodeFrom_inside_succ (within : low ≤ octet ∧ octet ≤ high) (octets : List UInt8) :
    decodeFrom (.inside bits low high (more + 1)) (octet :: octets) =
      decodeFrom (.inside (bits * 64 + (octet.toNat - 0x80)) 0x80 0xBF more) octets := by
  simp [decodeFrom, advance, within]

/-! ## First octets -/

/-- An ASCII octet is a character. -/
theorem begin_ascii (h : octet.toNat < 0x80) :
    begin octet = ([some (Char.ofNat octet.toNat)], .start) := by
  simp [begin, h]

theorem begin_two (h : 0xC2 ≤ octet.toNat) (h' : octet.toNat < 0xE0) :
    begin octet = ([], .inside (octet.toNat - 0xC0) 0x80 0xBF 0) := by
  simp only [begin]
  rw [if_neg (by omega), if_neg (by omega), if_pos h']

/-- The second octet of three must rule out longer spellings and surrogates. -/
theorem begin_three (h : 0xE0 ≤ octet.toNat) (h' : octet.toNat < 0xF0) :
    begin octet = ([], .inside (octet.toNat - 0xE0) (if octet.toNat = 0xE0 then 0xA0 else 0x80)
      (if octet.toNat = 0xED then 0x9F else 0xBF) 1) := by
  simp only [begin]
  rw [if_neg (by omega), if_neg (by omega), if_neg (by omega)]
  by_cases least : octet.toNat = 0xE0
  · simp [least]
  · by_cases surrogate : octet.toNat = 0xED
    · simp [surrogate]
    · simp [least, surrogate, h']

/-- The second octet of four must rule out longer spellings and numbers that are too large. -/
theorem begin_four (h : 0xF0 ≤ octet.toNat) (h' : octet.toNat < 0xF5) :
    begin octet = ([], .inside (octet.toNat - 0xF0) (if octet.toNat = 0xF0 then 0x90 else 0x80)
      (if octet.toNat = 0xF4 then 0x8F else 0xBF) 2) := by
  simp only [begin]
  rw [if_neg (by omega), if_neg (by omega), if_neg (by omega), if_neg (by omega),
    if_neg (by omega), if_neg (by omega)]
  by_cases least : octet.toNat = 0xF0
  · simp [least]
  · by_cases most : octet.toNat = 0xF4
    · simp [most]
    · have below : octet.toNat < 0xF4 := by omega
      simp [least, most, below]

/-- Any other octet is broken. -/
theorem begin_broken (h : 0x80 ≤ octet.toNat ∧ octet.toNat < 0xC2 ∨ 0xF5 ≤ octet.toNat) :
    begin octet = ([none], .start) := by
  simp only [begin]
  rcases h with ⟨h, h'⟩ | h
  · rw [if_neg (by omega), if_pos h']
  · rw [if_neg (by omega), if_neg (by omega), if_neg (by omega), if_neg (by omega),
      if_neg (by omega), if_neg (by omega), if_neg (by omega), if_neg (by omega),
      if_neg (by omega)]

/-! ## What may complete a character -/

/-- How many characters the octets to come can tell apart. -/
def continuations : Nat → Nat
  | 0 => 1
  | more + 1 => 64 * continuations more

/-- Which characters may complete what has begun: no ASCII octet continues it, and all that
the octets to come can lead to are characters beyond ASCII. -/
def Pending.Sound : Pending → Prop
  | .start => True
  | .inside bits low high more =>
    0x80 ≤ low.toNat ∧ high.toNat ≤ 0xBF ∧
      ∀ n, (bits * 64 + (low.toNat - 0x80)) * continuations more ≤ n →
        n < (bits * 64 + (high.toNat - 0x80) + 1) * continuations more →
          0x80 ≤ n ∧ n.isValidChar

/-- The octets of a character are the only ones with a first octet. -/
theorem lead_cases (octet : UInt8) :
    octet.toNat < 0x80 ∨ (0xC2 ≤ octet.toNat ∧ octet.toNat < 0xE0) ∨
      (0xE0 ≤ octet.toNat ∧ octet.toNat < 0xF0) ∨ (0xF0 ≤ octet.toNat ∧ octet.toNat < 0xF5) ∨
      (0x80 ≤ octet.toNat ∧ octet.toNat < 0xC2 ∨ 0xF5 ≤ octet.toNat) := by
  omega

/-- A first octet promises a character beyond ASCII, if it promises any. -/
theorem sound_begin (octet : UInt8) : (begin octet).2.Sound := by
  rcases lead_cases octet with h | ⟨h, h'⟩ | ⟨h, h'⟩ | ⟨h, h'⟩ | h
  · rw [begin_ascii h]
    trivial
  · rw [begin_two h h']
    refine ⟨by decide, by decide, fun n least most => ?_⟩
    simp only [UInt8.reduceToNat, continuations, Nat.mul_one, Nat.isValidChar] at least most ⊢
    omega
  · rw [begin_three h h']
    refine ⟨?_, ?_, fun n least most => ?_⟩
    · split <;> decide
    · split <;> decide
    · simp only [continuations, Nat.isValidChar] at least most ⊢
      split at least <;> split at most <;> simp only [UInt8.reduceToNat] at least most <;> omega
  · rw [begin_four h h']
    refine ⟨?_, ?_, fun n least most => ?_⟩
    · split <;> decide
    · split <;> decide
    · simp only [continuations, Nat.isValidChar] at least most ⊢
      split at least <;> split at most <;> simp only [UInt8.reduceToNat] at least most <;> omega
  · rw [begin_broken h]
    trivial

/-- One more octet keeps the promise. -/
theorem sound_advance {pending : Pending} (sound : pending.Sound) (octet : UInt8) :
    (advance pending octet).2.Sound := by
  cases pending with
  | start => exact sound_begin octet
  | inside bits low high more =>
    obtain ⟨lowest, highest, leads⟩ := sound
    by_cases within : low ≤ octet ∧ octet ≤ high
    · cases more with
      | zero => simp [advance, within, Pending.Sound]
      | succ more =>
        obtain ⟨above, below⟩ := within
        simp only [UInt8.le_iff_toNat_le] at above below
        simp only [advance, UInt8.le_iff_toNat_le, above, below, and_self, if_true]
        refine ⟨by decide, by decide, fun n least most => leads n ?_ ?_⟩
        · calc (bits * 64 + (low.toNat - 0x80)) * continuations (more + 1)
            _ ≤ (bits * 64 + (octet.toNat - 0x80)) * continuations (more + 1) :=
              Nat.mul_le_mul_right _ (by omega)
            _ = ((bits * 64 + (octet.toNat - 0x80)) * 64 + 0) * continuations more := by
              rw [continuations, Nat.add_zero, Nat.mul_assoc]
            _ ≤ n := least
        · calc n
            _ < ((bits * 64 + (octet.toNat - 0x80)) * 64 + 0x3F + 1) * continuations more := most
            _ = (bits * 64 + (octet.toNat - 0x80) + 1) * continuations (more + 1) := by
              rw [continuations, ← Nat.mul_assoc, Nat.add_mul _ 1 64]
            _ ≤ (bits * 64 + (high.toNat - 0x80) + 1) * continuations (more + 1) :=
              Nat.mul_le_mul_right _ (by omega)
    · simp only [advance, within, if_false]
      exact sound_begin octet

/-! ## ASCII octets -/

/-- An ASCII octet continues no character: what has begun before it is broken off. -/
theorem advance_ascii {pending : Pending} (sound : pending.Sound) (ascii : octet.toNat < 0x80) :
    advance pending octet =
      (decodeFrom pending [] ++ [some (Char.ofNat octet.toNat)], .start) := by
  cases pending with
  | start => exact begin_ascii ascii
  | inside bits low high more =>
    have outside : ¬ (low ≤ octet ∧ octet ≤ high) := by
      rw [UInt8.le_iff_toNat_le]
      have lowest := sound.1
      omega
    simp only [advance, outside, if_false, begin_ascii ascii]
    rfl

/-- An ASCII octet cuts the octets in two, whose characters do not depend on each other. -/
theorem decodeFrom_append_ascii {pending : Pending} (sound : pending.Sound)
    (ascii : octet.toNat < 0x80) (before after : List UInt8) :
    decodeFrom pending (before ++ octet :: after) =
      decodeFrom pending before
        ++ some (Char.ofNat octet.toNat) :: decodeFrom .start after := by
  induction before generalizing pending with
  | nil =>
    rw [List.nil_append, decodeFrom_cons, advance_ascii sound ascii]
    simp
  | cons first before ih =>
    rw [List.cons_append, decodeFrom_cons, decodeFrom_cons, ih (sound_advance sound first),
      List.append_assoc]

/-- The number of a character that is made from a number. -/
theorem toNat_ofNat {n : Nat} (valid : n.isValidChar) : (Char.ofNat n).toNat = n := by
  rw [Char.ofNat, dif_pos valid]
  rfl

/-- Only ASCII octets make ASCII characters. -/
theorem not_ascii_of_mem_advance {pending : Pending} (sound : pending.Sound)
    (long : 0x80 ≤ octet.toNat) {c : Char} (mem : some c ∈ (advance pending octet).1) :
    0x80 ≤ c.toNat := by
  have nothing : some c ∉ (begin octet).1 := by
    rcases lead_cases octet with h | ⟨h, h'⟩ | ⟨h, h'⟩ | ⟨h, h'⟩ | h
    · omega
    · simp [begin_two h h']
    · simp [begin_three h h']
    · simp [begin_four h h']
    · simp [begin_broken h]
  cases pending with
  | start => exact absurd mem nothing
  | inside bits low high more =>
    obtain ⟨lowest, highest, leads⟩ := sound
    by_cases within : low ≤ octet ∧ octet ≤ high
    · cases more with
      | succ more => simp [advance, within] at mem
      | zero =>
        obtain ⟨above, below⟩ := within
        simp only [UInt8.le_iff_toNat_le] at above below
        simp only [continuations, Nat.mul_one] at leads
        obtain ⟨least, valid⟩ := leads (bits * 64 + (octet.toNat - 0x80)) (by omega) (by omega)
        simp only [advance, UInt8.le_iff_toNat_le, above, below, and_self, if_true,
          List.mem_singleton, Option.some.injEq] at mem
        rw [mem, toNat_ofNat valid]
        exact least
    · simp only [advance, within, if_false, List.mem_cons, reduceCtorEq, false_or] at mem
      exact absurd mem nothing

/-- What is broken off makes no character. -/
theorem eq_of_append_ascii {pending : Pending} {c d : Char} {before rest : List (Option Char)}
    (h : decodeFrom pending [] ++ [some d] = before ++ some c :: rest) :
    decodeFrom pending [] = before ∧ d = c ∧ rest = [] := by
  have last : ∀ {before : List (Option Char)}, before ++ some c :: rest = [some d] →
      before = [] ∧ d = c ∧ rest = [] := by
    intro before same
    rcases List.append_eq_singleton_iff.1 same with ⟨rfl, made⟩ | ⟨-, nothing⟩
    · obtain ⟨only, rfl⟩ := List.cons.inj made
      exact ⟨rfl, (Option.some.inj only).symm, rfl⟩
    · exact nomatch nothing
  cases pending with
  | start =>
    obtain ⟨rfl, made, empty⟩ := last h.symm
    exact ⟨rfl, made, empty⟩
  | inside bits low high more =>
    cases before with
    | nil => simp [decodeFrom] at h
    | cons unit before =>
      obtain ⟨broken, same⟩ := List.cons.inj h
      obtain ⟨rfl, made, empty⟩ := last same.symm
      exact ⟨congrArg (fun unit => [unit]) broken, made, empty⟩

/-- An ASCII character comes from its octet, which cuts the octets in two. -/
theorem exists_of_decodeFrom_eq_append {pending : Pending} (sound : pending.Sound)
    {octets : List UInt8} {c : Char} (ascii : c.toNat < 0x80) {before after : List (Option Char)}
    (text : decodeFrom pending octets = before ++ some c :: after) :
    ∃ front octet back, octets = front ++ octet :: back ∧ octet.toNat = c.toNat ∧
      decodeFrom pending front = before ∧ decodeFrom .start back = after := by
  induction octets generalizing pending before with
  | nil => cases pending <;> simp [decodeFrom, List.singleton_eq_append_iff] at text
  | cons octet octets ih =>
    have sound' := sound_advance sound octet
    rw [decodeFrom_cons] at text
    rcases List.append_eq_append_iff.1 text with ⟨later, rfl, others⟩ | ⟨rest, units, others⟩
    · obtain ⟨front, found, back, rfl, same, read, read'⟩ := ih sound' others
      exact ⟨octet :: front, found, back, rfl, same, by rw [decodeFrom_cons, read], read'⟩
    · cases rest with
      | nil =>
        have none : decodeFrom (advance pending octet).2 octets = [] ++ some c :: after :=
          others.symm
        obtain ⟨front, found, back, rfl, same, read, read'⟩ := ih sound' none
        refine ⟨octet :: front, found, back, rfl, same, ?_, read'⟩
        rw [decodeFrom_cons, read, units, List.append_nil, List.append_nil]
      | cons unit rest =>
        obtain ⟨rfl, rfl⟩ := List.cons.inj others
        -- The character is made by this very octet, which is therefore an ASCII one.
        have short : octet.toNat < 0x80 := by
          by_contra long
          have beyond := not_ascii_of_mem_advance (c := c) sound (Nat.not_lt.1 long)
            (by simp [units])
          omega
        rw [advance_ascii sound short] at units ⊢
        obtain ⟨broken, made, rfl⟩ := eq_of_append_ascii units
        refine ⟨[], octet, octets, rfl, ?_, broken, rfl⟩
        rw [← made, toNat_ofNat (.inl (by omega))]

/-! ## Decoding undoes encoding -/

section Encode

variable {n : Nat} (octets : List UInt8)

/-- An octet that is given by its number. -/
theorem toNat_octet (h : n < 256) : (UInt8.ofNat n).toNat = n := UInt8.toNat_ofNat_of_lt' h

/-- An octet after the first one lies between the bounds that the number sets. -/
theorem octet_within {low high : UInt8} (least : low.toNat ≤ n) (most : n ≤ high.toNat) :
    low ≤ UInt8.ofNat n ∧ UInt8.ofNat n ≤ high := by
  have size := high.toNat_lt
  rw [UInt8.le_iff_toNat_le, UInt8.le_iff_toNat_le, toNat_octet (by omega)]
  exact ⟨least, most⟩

theorem decodeFrom_two (least : 0x80 ≤ n) (most : n < 0x800) :
    decodeFrom .start (UInt8.ofNat (n / 64 % 32 + 192) :: UInt8.ofNat (n % 64 + 128) :: octets) =
      some (Char.ofNat n) :: decodeFrom .start octets := by
  have first : (UInt8.ofNat (n / 64 % 32 + 192)).toNat = n / 64 + 192 := by
    rw [toNat_octet] <;> omega
  have second : (UInt8.ofNat (n % 64 + 128)).toNat = n % 64 + 128 := toNat_octet (by omega)
  have number : (n / 64 + 192 - 0xC0) * 64 + (n % 64 + 128 - 0x80) = n := by omega
  rw [decodeFrom_cons, advance, begin_two (by omega) (by omega), List.nil_append,
    decodeFrom_inside_zero (octet_within (by simp) (by simp; omega)), first, second, number]

theorem decodeFrom_three (least : 0x800 ≤ n) (most : n < 0x10000)
    (valid : n < 0xD800 ∨ 0xDFFF < n) :
    decodeFrom .start (UInt8.ofNat (n / 4096 % 16 + 224) :: UInt8.ofNat (n / 64 % 64 + 128)
        :: UInt8.ofNat (n % 64 + 128) :: octets) =
      some (Char.ofNat n) :: decodeFrom .start octets := by
  have first : (UInt8.ofNat (n / 4096 % 16 + 224)).toNat = n / 4096 + 224 := by
    rw [toNat_octet] <;> omega
  have second : (UInt8.ofNat (n / 64 % 64 + 128)).toNat = n / 64 % 64 + 128 :=
    toNat_octet (by omega)
  have third : (UInt8.ofNat (n % 64 + 128)).toNat = n % 64 + 128 := toNat_octet (by omega)
  have number : ((n / 4096 + 224 - 0xE0) * 64 + (n / 64 % 64 + 128 - 0x80)) * 64
      + (n % 64 + 128 - 0x80) = n := by omega
  rw [decodeFrom_cons, advance, begin_three (by omega) (by omega), List.nil_append,
    decodeFrom_inside_succ (octet_within ?_ ?_),
    decodeFrom_inside_zero (octet_within (by simp) (by simp; omega)), first, second, third, number]
  · rw [first]
    split <;> simp only [UInt8.reduceToNat] <;> omega
  · rw [first]
    split <;> simp only [UInt8.reduceToNat] <;> omega

theorem decodeFrom_four (least : 0x10000 ≤ n) (most : n < 0x110000) :
    decodeFrom .start (UInt8.ofNat (n / 262144 % 8 + 240) :: UInt8.ofNat (n / 4096 % 64 + 128)
        :: UInt8.ofNat (n / 64 % 64 + 128) :: UInt8.ofNat (n % 64 + 128) :: octets) =
      some (Char.ofNat n) :: decodeFrom .start octets := by
  have first : (UInt8.ofNat (n / 262144 % 8 + 240)).toNat = n / 262144 + 240 := by
    rw [toNat_octet] <;> omega
  have second : (UInt8.ofNat (n / 4096 % 64 + 128)).toNat = n / 4096 % 64 + 128 :=
    toNat_octet (by omega)
  have third : (UInt8.ofNat (n / 64 % 64 + 128)).toNat = n / 64 % 64 + 128 :=
    toNat_octet (by omega)
  have fourth : (UInt8.ofNat (n % 64 + 128)).toNat = n % 64 + 128 := toNat_octet (by omega)
  have number : (((n / 262144 + 240 - 0xF0) * 64 + (n / 4096 % 64 + 128 - 0x80)) * 64
      + (n / 64 % 64 + 128 - 0x80)) * 64 + (n % 64 + 128 - 0x80) = n := by omega
  rw [decodeFrom_cons, advance, begin_four (by omega) (by omega), List.nil_append,
    decodeFrom_inside_succ (octet_within ?_ ?_),
    decodeFrom_inside_succ (octet_within (by simp) (by simp; omega)),
    decodeFrom_inside_zero (octet_within (by simp) (by simp; omega)), first, second, third, fourth,
    number]
  · rw [first]
    split <;> simp only [UInt8.reduceToNat] <;> omega
  · rw [first]
    split <;> simp only [UInt8.reduceToNat] <;> omega

/-- The octets of a character are decoded to it, whatever octets follow. -/
theorem decodeFrom_utf8EncodeChar (c : Char) :
    decodeFrom .start (String.utf8EncodeChar c ++ octets) = some c :: decodeFrom .start octets := by
  have valid := c.valid
  have number : Char.ofNat c.val.toNat = c := Char.ofNat_toNat c
  simp only [UInt32.isValidChar, Nat.isValidChar] at valid
  unfold String.utf8EncodeChar
  generalize c.val.toNat = n at valid number
  subst number
  dsimp only
  split
  · rw [List.cons_append, decodeFrom_cons, advance, begin_ascii (by rw [toNat_octet] <;> omega),
      toNat_octet (by omega)]
    rfl
  split
  · exact decodeFrom_two octets (by omega) (by omega)
  split
  · exact decodeFrom_three octets (by omega) (by omega) (by omega)
  · exact decodeFrom_four octets (by omega) (by omega)

end Encode

/-- Decoding undoes encoding, and no sequence is broken. -/
theorem decodeUnits_encode (cs : List Char) : decodeUnits (encode cs) = cs.map some := by
  unfold decodeUnits encode
  induction cs with
  | nil => rfl
  | cons c cs ih => rw [List.flatMap_cons, decodeFrom_utf8EncodeChar, ih, List.map_cons]

/-- Encoded text is well formed. -/
@[simp] theorem decode?_encode (cs : List Char) : decode? (encode cs) = some cs := by
  rw [decode?, decodeUnits_encode]
  induction cs with
  | nil => rfl
  | cons c cs ih => simp [ih]

/-- Encoded text is taken over unchanged. -/
@[simp] theorem decodeLossy_encode (cs : List Char) : decodeLossy (encode cs) = cs := by
  simp [decodeLossy, decodeUnits_encode, Function.comp_def]

/-! ## ASCII pieces -/

/-- An ASCII octet cuts the octets in two, whose texts do not depend on each other. -/
theorem decodeLossy_append_ascii (ascii : octet.toNat < 0x80) (before after : List UInt8) :
    decodeLossy (before ++ octet :: after) =
      decodeLossy before ++ Char.ofNat octet.toNat :: decodeLossy after := by
  unfold decodeLossy decodeUnits
  rw [decodeFrom_append_ascii (show Pending.start.Sound from trivial) ascii, List.map_append,
    List.map_cons]
  rfl

/-- What has begun makes a character, or a broken one. -/
theorem decodeFrom_inside_ne_nil (octets : List UInt8) :
    decodeFrom (.inside bits low high more) octets ≠ [] := by
  induction octets generalizing bits low high more with
  | nil => simp [decodeFrom]
  | cons octet octets ih =>
    by_cases within : low ≤ octet ∧ octet ≤ high
    · cases more with
      | zero => simp [decodeFrom_inside_zero within]
      | succ more =>
        rw [decodeFrom_inside_succ within]
        exact ih
    · simp [decodeFrom_cons, advance, within]

/-- So does every octet. -/
theorem decodeUnits_eq_nil {octets : List UInt8} (h : decodeUnits octets = []) : octets = [] := by
  cases octets with
  | nil => rfl
  | cons octet octets =>
    rw [decodeUnits, decodeFrom_cons, advance] at h
    obtain ⟨units, rest⟩ := List.append_eq_nil_iff.1 h
    rcases lead_cases octet with first | ⟨first, first'⟩ | ⟨first, first'⟩ | ⟨first, first'⟩ | first
    · simp [begin_ascii first] at units
    · rw [begin_two first first'] at rest
      exact absurd rest (decodeFrom_inside_ne_nil octets)
    · rw [begin_three first first'] at rest
      exact absurd rest (decodeFrom_inside_ne_nil octets)
    · rw [begin_four first first'] at rest
      exact absurd rest (decodeFrom_inside_ne_nil octets)
    · simp [begin_broken first] at units

/-- Only no octets are decoded to no text. -/
theorem decodeLossy_eq_nil {octets : List UInt8} (h : decodeLossy octets = []) : octets = [] :=
  decodeUnits_eq_nil (List.map_eq_nil_iff.1 h)

/-- An ASCII character is one octet. -/
theorem utf8EncodeChar_ascii {c : Char} {octet : UInt8} (ascii : c.toNat < 0x80)
    (same : octet.toNat = c.toNat) : String.utf8EncodeChar c = [octet] := by
  have short : c.val.toNat ≤ 127 := Nat.le_of_lt_succ ascii
  have made : UInt8.ofNat c.val.toNat = octet := by
    rw [← UInt8.toNat_inj, toNat_octet (by omega), same]
    rfl
  rw [String.utf8EncodeChar, if_pos short, made]

/-- An ASCII character of a decoded text cuts the octets in two. -/
theorem exists_of_decodeLossy_eq_cons {octets : List UInt8} {c : Char} (ascii : c.toNat < 0x80)
    {before after : List Char} (text : decodeLossy octets = before ++ c :: after) :
    ∃ front octet back, octets = front ++ octet :: back ∧ octet.toNat = c.toNat ∧
      decodeLossy front = before ∧ decodeLossy back = after := by
  obtain ⟨unitsBefore, units, split, rfl, rest⟩ := List.map_eq_append_iff.1 text
  obtain ⟨unit, unitsAfter, rfl, made, rfl⟩ := List.map_eq_cons_iff.1 rest
  have known : unit = some c := by
    cases unit with
    | some d => exact congrArg some made
    | none =>
      obtain rfl : replacement = c := made
      exact absurd ascii (by decide)
  subst known
  obtain ⟨front, octet, back, rfl, same, read, read'⟩ :=
    exists_of_decodeFrom_eq_append (show Pending.start.Sound from trivial) ascii split
  exact ⟨front, octet, back, rfl, same, congrArg _ read, congrArg _ read'⟩

/-- An ASCII character that no octet stands for does not occur in the text. -/
theorem not_mem_decodeLossy {octets : List UInt8} {c : Char} (ascii : c.toNat < 0x80)
    (absent : ∀ octet ∈ octets, octet.toNat ≠ c.toNat) : c ∉ decodeLossy octets := by
  intro mem
  obtain ⟨before, after, text⟩ := List.append_of_mem mem
  obtain ⟨front, octet, back, rfl, same, -⟩ := exists_of_decodeLossy_eq_cons ascii text
  exact absent octet (List.mem_append_right front List.mem_cons_self) same

/-- An ASCII piece of a decoded text is a piece of the octets, and what stands on its two
sides is decoded on its own. -/
theorem exists_of_decodeLossy_eq_append {c : Char} {cs : List Char}
    (ascii : ∀ d ∈ c :: cs, d.toNat < 0x80) {octets : List UInt8} {before after : List Char}
    (text : decodeLossy octets = before ++ (c :: cs) ++ after) :
    ∃ front back, octets = front ++ encode (c :: cs) ++ back ∧
      decodeLossy front = before ∧ decodeLossy back = after := by
  induction cs generalizing c before octets with
  | nil =>
    rw [List.append_assoc, List.singleton_append] at text
    obtain ⟨front, octet, back, rfl, same, read, read'⟩ :=
      exists_of_decodeLossy_eq_cons (ascii c (List.mem_cons_self ..)) text
    refine ⟨front, back, ?_, read, read'⟩
    simp [encode, utf8EncodeChar_ascii (ascii c (List.mem_cons_self ..)) same]
  | cons d ds ih =>
    rw [List.append_assoc, List.cons_append] at text
    obtain ⟨front, octet, back, rfl, same, read, read'⟩ :=
      exists_of_decodeLossy_eq_cons (ascii c (List.mem_cons_self ..)) text
    have alone : decodeLossy back = [] ++ (d :: ds) ++ after := read'
    obtain ⟨none, rest, rfl, empty, last⟩ :=
      ih (fun e mem => ascii e (List.mem_cons_of_mem c mem)) alone
    obtain rfl := decodeLossy_eq_nil empty
    refine ⟨front, rest, ?_, read, last⟩
    simp [encode, utf8EncodeChar_ascii (ascii c (List.mem_cons_self ..)) same]

end HostPreflight.Text.Utf8
