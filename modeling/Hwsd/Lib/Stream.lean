import Mathlib.Data.List.TakeWhile

/-!
# Hwsd.Lib.Stream

Formatted text streams over bytes, as `std::ostringstream` and `std::istringstream` compute them
in the classic locale.

* `putNat`, `putUnsigned`, `putInt`, `putBool` are what `operator<<` writes.
* `extractText`, `extractUnsigned`, `extractInt`, `extractBool` are what `operator>>` leaves in
  the variable it reads into. A stream that ends inside the leading white space leaves the
  variable alone; a number that does not parse stores 0; one that is out of range is clamped.
* `IsNumber s`: a decimal number, leading zeros allowed. `atoi_number`: what the C library reads from
  a text that begins with one.
* `RoundTrips put extract v`: the text of `v` is not empty and is read back as `v` whatever the
  variable held before. Every number and truth value does; a text does exactly when it is not
  empty and free of white space (`extractText_eq_self`).
-/

namespace CxxStream

abbrev Byte := UInt8

abbrev Text := List Byte

/-- The bytes of an ASCII literal. -/
def lit (s : String) : Text := s.toList.map fun c => UInt8.ofNat c.toNat

def isSpace (c : Byte) : Bool := c.toNat == 32 || (9 ≤ c.toNat && c.toNat ≤ 13)

def isDigit (c : Byte) : Bool := 48 ≤ c.toNat && c.toNat ≤ 57

def NoSpace (s : Text) : Prop := ∀ c ∈ s, isSpace c = false

def Blank (s : Text) : Prop := ∀ c ∈ s, isSpace c = true

-- The list is searched; a search of all bytes is found first where all of Mathlib is imported.
instance (s : Text) : Decidable (NoSpace s) := List.decidableBAll (fun c => isSpace c = false) s

instance (s : Text) : Decidable (Blank s) := List.decidableBAll (fun c => isSpace c = true) s

def skipws (s : Text) : Text := s.dropWhile isSpace

/-- The leading bytes up to the next white space. -/
def word (s : Text) : Text := s.takeWhile fun c => !isSpace c

/-! ## `operator<<` -/

def putText (s : Text) : Text := s

def putNat (n : Nat) : Text := (Nat.toDigits 10 n).map fun c => UInt8.ofNat c.toNat

def putUnsigned (u : UInt32) : Text := putNat u.toNat

def putInt (z : Int32) : Text :=
  if z.toInt < 0 then lit "-" ++ putNat z.toInt.natAbs else putNat z.toInt.natAbs

def putBool (b : Bool) : Text := if b then lit "1" else lit "0"

/-! ## `operator>>` -/

def extractText (data value : Text) : Text :=
  if skipws data = [] then value else word (skipws data)

/-- The value of a digit string; 0 when it is empty. -/
def readNat (s : Text) : Nat := s.foldl (fun v c => 10 * v + (c.toNat - 48)) 0

def dropSign : Text → Text
  | [] => []
  | c :: s => if c = 45 ∨ c = 43 then s else c :: s

/-- The number at the front of `s`, after an optional sign: whether it is negated, and its
magnitude. -/
def scanNumber (s : Text) : Bool × Nat :=
  (s.head? == some 45, readNat ((dropSign s).takeWhile isDigit))

def extractUnsigned (data : Text) (value : UInt32) : UInt32 :=
  if skipws data = [] then value else
    let (negative, m) := scanNumber (skipws data)
    if negative ∧ m < UInt32.size then -UInt32.ofNat m else UInt32.ofNatClamp m

def signed : Bool × Nat → Int
  | (true, m) => -m
  | (false, m) => m

def extractInt (data : Text) (value : Int32) : Int32 :=
  if skipws data = [] then value else Int32.ofIntClamp (signed (scanNumber (skipws data)))

/-- Without `boolalpha` any number but 0 is stored as `true`. -/
def extractBool (data : Text) (value : Bool) : Bool :=
  if skipws data = [] then value else signed (scanNumber (skipws data)) != 0

/-- `atoi`: `strtol`, which clamps to a `long`, cut down to an `int`. -/
def atoi (s : Text) : Int32 := (Int64.ofIntClamp (signed (scanNumber (skipws s)))).toInt32

/-! ## White space -/

theorem skipws_of_head {c : Byte} {s : Text} (h : isSpace c = false) :
    skipws (c :: s) = c :: s := by
  simp [skipws, h]

theorem skipws_eq_nil {s : Text} : skipws s = [] ↔ Blank s := by
  simp [skipws, Blank, List.dropWhile_eq_nil_iff]

theorem noSpace_skipws {s : Text} (h : NoSpace s) : skipws s = s := by
  cases s with
  | nil => rfl
  | cons c s => exact skipws_of_head (h c (by simp))

theorem word_eq_self {s : Text} : word s = s ↔ NoSpace s := by
  simp [word, NoSpace, List.takeWhile_eq_self_iff]

theorem noSpace_word (s : Text) : NoSpace (word s) := by
  intro c hc
  simpa using List.mem_takeWhile_imp hc

theorem extractText_of_blank {s : Text} (h : Blank s) (v : Text) : extractText s v = v := by
  rw [extractText, if_pos (skipws_eq_nil.mpr h)]

theorem extractText_of_not_blank {s : Text} (h : ¬ Blank s) (v : Text) :
    extractText s v = word (skipws s) := by
  rw [extractText, if_neg (mt skipws_eq_nil.mp h)]

/-- What is read from a text that is not blank is not empty. -/
theorem word_skipws_ne_nil {s : Text} (h : ¬ Blank s) : word (skipws s) ≠ [] := by
  have hne : skipws s ≠ [] := mt skipws_eq_nil.mp h
  have hhead := List.head_dropWhile_not isSpace hne
  obtain ⟨c, r, hcr⟩ := List.exists_cons_of_ne_nil hne
  have hc : isSpace c = false := by
    have : (s.dropWhile isSpace).head hne = c := by
      simp only [skipws] at hcr
      simp [hcr]
    rw [← this]; exact hhead
  rw [hcr, word, List.takeWhile_cons]
  simp [hc]

theorem extractText_nil_eq_nil {s : Text} : extractText s [] = [] ↔ Blank s := by
  constructor
  · intro h
    by_contra hb
    rw [extractText_of_not_blank hb] at h
    exact word_skipws_ne_nil hb h
  · intro hb
    rw [extractText_of_blank hb]

/-- A text is read back unchanged, into an empty variable, exactly when no white space cuts it. -/
theorem extractText_nil_eq_self {s : Text} : extractText s [] = s ↔ NoSpace s := by
  constructor
  · intro h
    by_cases hb : Blank s
    · rw [extractText_of_blank hb] at h
      subst h
      intro c hc
      simp at hc
    · rw [extractText_of_not_blank hb] at h
      rw [← h]
      exact noSpace_word _
  · intro h
    by_cases hb : Blank s
    · cases s with
      | nil => rfl
      | cons c s =>
        have h1 := h c (by simp)
        rw [hb c (by simp)] at h1
        cases h1
    · rw [extractText_of_not_blank hb, noSpace_skipws h, word_eq_self.mpr h]

theorem extractText_eq_self {s v : Text} (hne : s ≠ []) (h : NoSpace s) : extractText s v = s := by
  obtain ⟨c, r, rfl⟩ := List.exists_cons_of_ne_nil hne
  have hb : ¬ Blank (c :: r) := by
    intro hb
    have h1 := h c (by simp)
    rw [hb c (by simp)] at h1
    cases h1
  rw [extractText_of_not_blank hb, noSpace_skipws h, word_eq_self.mpr h]

/-! ## Decimal digits -/

theorem toNat_ofNat_digit {c : Char} (h : c.isDigit = true) :
    (UInt8.ofNat c.toNat).toNat = c.toNat := by
  simp [Char.isDigit, UInt32.le_iff_toNat_le] at h
  have : c.toNat ≤ 57 := h.2
  simp
  omega

theorem isDigit_putNat {n : Nat} {c : Byte} (h : c ∈ putNat n) : isDigit c = true := by
  simp only [putNat, List.mem_map] at h
  obtain ⟨d, hd, rfl⟩ := h
  have h1 := Nat.isDigit_of_mem_toDigits (by decide) (by decide) hd
  have h2 := toNat_ofNat_digit h1
  simp [Char.isDigit, UInt32.le_iff_toNat_le] at h1
  have h3 : 48 ≤ d.toNat := h1.1
  have h4 : d.toNat ≤ 57 := h1.2
  simp [isDigit, h2, h3, h4]

theorem putNat_ne_nil (n : Nat) : putNat n ≠ [] := by
  simp [putNat, Nat.toDigits_ne_nil]

theorem isSpace_of_isDigit {c : Byte} (h : isDigit c = true) : isSpace c = false := by
  simp [isDigit] at h
  simp [isSpace]
  omega

theorem noSpace_putNat (n : Nat) : NoSpace (putNat n) :=
  fun _ hc => isSpace_of_isDigit (isDigit_putNat hc)

theorem readNat_putNat (n : Nat) : readNat (putNat n) = n := by
  have key : ∀ (l : List Char) (v : Nat), (∀ c ∈ l, c.isDigit = true) →
      (l.map fun c => UInt8.ofNat c.toNat).foldl (fun v c => 10 * v + (c.toNat - 48)) v =
        Nat.ofDigitChars 10 l v := by
    intro l
    induction l with
    | nil => intro v _; rfl
    | cons c l ih =>
      intro v hl
      rw [List.map_cons, List.foldl_cons, ih _ fun d hd => hl d (by simp [hd]),
        toNat_ofNat_digit (hl c (by simp)), Nat.ofDigitChars_cons]
      rfl
  rw [readNat, putNat, key _ 0 fun _ hc => Nat.isDigit_of_mem_toDigits (by decide) (by decide) hc]
  exact Nat.ofDigitChars_ten_toDigits

theorem putNat_injective : Function.Injective putNat := by
  intro a b h
  rw [← readNat_putNat a, h, readNat_putNat]

/-- A number followed by a byte that is no digit: both parts can be told apart. -/
theorem putNat_append_inj {a b : Nat} {c : Byte} {r r' : Text} (hc : isDigit c = false)
    (h : putNat a ++ c :: r = putNat b ++ c :: r') : a = b ∧ r = r' := by
  have take : ∀ (n : Nat) (s : Text), (putNat n ++ c :: s).takeWhile isDigit = putNat n := by
    intro n s
    rw [List.takeWhile_append_of_pos fun d hd => isDigit_putNat hd, List.takeWhile_cons]
    simp [hc]
  have hab : putNat a = putNat b := by rw [← take a r, h, take]
  rw [hab] at h
  exact ⟨putNat_injective hab, by simpa using h⟩

/-- Two texts with a separator are cut apart at the last one. -/
theorem append_cons_inj {c : Byte} {l l' r r' : Text} (hr : c ∉ r) (hr' : c ∉ r') :
    l ++ c :: r = l' ++ c :: r' ↔ l = l' ∧ r = r' := by
  constructor
  · intro h
    rcases List.append_eq_append_iff.mp h with ⟨m, hl, hm⟩ | ⟨m, hl, hm⟩
    · cases m with
      | nil =>
        obtain ⟨_, hrr⟩ := List.cons.inj hm
        exact ⟨by rw [hl, List.append_nil], hrr⟩
      | cons d m =>
        obtain ⟨_, hrr⟩ := List.cons.inj hm
        exact absurd (by rw [hrr]; simp) hr
    · cases m with
      | nil =>
        obtain ⟨_, hrr⟩ := List.cons.inj hm
        exact ⟨by rw [hl, List.append_nil], hrr.symm⟩
      | cons d m =>
        obtain ⟨_, hrr⟩ := List.cons.inj hm
        exact absurd (by rw [hrr]; simp) hr'
  · rintro ⟨rfl, rfl⟩
    rfl

/-! ## Decimal numbers -/

def IsNumber (s : Text) : Prop := s ≠ [] ∧ ∀ c ∈ s, isDigit c = true

instance (s : Text) : Decidable (IsNumber s) :=
  have : Decidable (∀ c ∈ s, isDigit c = true) := List.decidableBAll (fun c => isDigit c = true) s
  inferInstanceAs (Decidable (_ ∧ _))

theorem isNumber_putNat (n : Nat) : IsNumber (putNat n) :=
  ⟨putNat_ne_nil n, fun _ hc => isDigit_putNat hc⟩

theorem IsNumber.exists_cons {s : Text} (h : IsNumber s) :
    ∃ c r, s = c :: r ∧ isDigit c = true := by
  obtain ⟨c, r, rfl⟩ := List.exists_cons_of_ne_nil h.1
  exact ⟨c, r, rfl, h.2 c (by simp)⟩

theorem takeWhile_number {s r : Text} (h : IsNumber s) (hr : ∀ c ∈ r.head?, isDigit c = false) :
    (s ++ r).takeWhile isDigit = s := by
  rw [List.takeWhile_append_of_pos h.2]
  cases r with
  | nil => simp
  | cons c r =>
    have hc : isDigit c = false := hr c rfl
    simp [hc]

/-- A number is read up to the first byte that is no digit. -/
theorem scanNumber_number {s r : Text} (h : IsNumber s) (hr : ∀ c ∈ r.head?, isDigit c = false) :
    scanNumber (skipws (s ++ r)) = (false, readNat s) := by
  have htake := takeWhile_number h hr
  obtain ⟨c, t, rfl, hc⟩ := h.exists_cons
  have hminus : c ≠ 45 := by rintro rfl; simp [isDigit] at hc
  have hplus : c ≠ 43 := by rintro rfl; simp [isDigit] at hc
  rw [List.cons_append] at htake ⊢
  rw [skipws_of_head (isSpace_of_isDigit hc), scanNumber, dropSign,
    if_neg (by simp [hminus, hplus]), htake]
  simp [hminus]

/-- The least `int` is `-2147483648`, the largest `2147483647`. -/
theorem atoi_number {s r : Text} (h : IsNumber s) (hr : ∀ c ∈ r.head?, isDigit c = false)
    (hlt : readNat s < 2147483648) : (atoi (s ++ r)).toInt = readNat s := by
  have hlong : (Int64.ofIntClamp (readNat s : Int)).toInt = readNat s := by
    refine Int64.toInt_ofIntClamp ?_ ?_
    · rw [Int64.toInt_minValue]
      omega
    · rw [Int64.toInt_maxValue]
      omega
  rw [atoi, scanNumber_number h hr, signed, Int64.toInt_toInt32, hlong]
  exact Int.bmod_eq_of_le (by omega) (by omega)

/-- A text that goes on with neither a digit, white space nor a sign reads as if it ended there. -/
theorem atoi_append {s r : Text} {c : Byte} (hd : isDigit c = false) (hs : isSpace c = false)
    (hminus : c ≠ 45) (hplus : c ≠ 43) : atoi (s ++ c :: r) = atoi s := by
  have hscan : scanNumber (skipws (s ++ c :: r)) = scanNumber (skipws s) := by
    by_cases hblank : skipws s = []
    · have hskip : skipws (s ++ c :: r) = c :: r := by
        rw [skipws, List.dropWhile_append_of_pos (skipws_eq_nil.mp hblank)]
        exact skipws_of_head hs
      rw [hskip, hblank]
      simp [scanNumber, dropSign, hminus, hplus, hd]
    · obtain ⟨a, t, hat⟩ := List.exists_cons_of_ne_nil hblank
      have hskip : skipws (s ++ c :: r) = a :: (t ++ c :: r) := by
        rw [skipws, List.dropWhile_append]
        rw [skipws] at hat
        simp [hat]
      have htake : ∀ l : Text, (l ++ c :: r).takeWhile isDigit = l.takeWhile isDigit := by
        intro l
        rw [List.takeWhile_append]
        split
        · rename_i hlen
          have hl : l.takeWhile isDigit = l := (List.takeWhile_prefix _).eq_of_length hlen
          simp [hl, hd]
        · rfl
      rw [hskip, hat, scanNumber, scanNumber, dropSign, dropSign]
      split
      · rw [htake]
        rfl
      · rw [← List.cons_append, htake]
        rfl
  rw [atoi, atoi, hscan]

/-- An `int` that is stored as an `unsigned` keeps a value that is not negative, and only that. -/
theorem toNat_toUInt32_eq_iff {z : Int32} {n : Nat} (h : n < 2147483648) :
    z.toUInt32.toNat = n ↔ z.toInt = n := by
  have hnat : z.toUInt32.toNat = z.toBitVec.toNat := rfl
  have hint : z.toInt = z.toBitVec.toInt := rfl
  have hlt := z.toBitVec.isLt
  rw [hnat, hint, BitVec.toInt_eq_toNat_cond]
  split <;> omega

/-! ## Round trips -/

/-- The text of `v` is not empty and is read back as `v`. -/
def RoundTrips {τ : Type} (put : τ → Text) (extract : Text → τ → τ) (v : τ) : Prop :=
  put v ≠ [] ∧ ∀ w, extract (put v) w = v

theorem dropSign_digits {s : Text} (h : ∀ c ∈ s, isDigit c = true) : dropSign s = s := by
  cases s with
  | nil => rfl
  | cons c s =>
    have hc := h c (by simp)
    have : ¬ (c = 45 ∨ c = 43) := by
      rintro (rfl | rfl) <;> simp [isDigit] at hc
    simp [dropSign, this]

theorem scanNumber_putNat (n : Nat) : scanNumber (skipws (putNat n)) = (false, n) := by
  rw [noSpace_skipws (noSpace_putNat n), scanNumber, dropSign_digits fun _ hc => isDigit_putNat hc,
    List.takeWhile_eq_self_iff.mpr fun _ hc => isDigit_putNat hc, readNat_putNat]
  obtain ⟨c, r, hcr⟩ := List.exists_cons_of_ne_nil (putNat_ne_nil n)
  have hc : isDigit c = true := isDigit_putNat (n := n) (by simp [hcr])
  have : c ≠ 45 := by rintro rfl; simp [isDigit] at hc
  simp [hcr, this]

theorem scanNumber_neg (n : Nat) : scanNumber (skipws (lit "-" ++ putNat n)) = (true, n) := by
  have hlit : lit "-" = [45] := by decide
  rw [hlit, List.singleton_append, skipws_of_head (by decide), scanNumber, dropSign,
    if_pos (.inl rfl), List.takeWhile_eq_self_iff.mpr fun _ hc => isDigit_putNat hc, readNat_putNat]
  rfl

theorem skipws_putNat_ne_nil (n : Nat) : skipws (putNat n) ≠ [] := by
  rw [noSpace_skipws (noSpace_putNat n)]
  exact putNat_ne_nil n

/-- A count that does not fit is read as the largest value. -/
theorem extractUnsigned_putNat (n : Nat) (v : UInt32) :
    extractUnsigned (putNat n) v = UInt32.ofNatClamp n := by
  rw [extractUnsigned, if_neg (skipws_putNat_ne_nil n), scanNumber_putNat]
  simp

theorem toNat_extractUnsigned_putNat (n : Nat) (v : UInt32) :
    (extractUnsigned (putNat n) v).toNat = min n (UInt32.size - 1) := by
  rw [extractUnsigned_putNat]
  by_cases h : n < UInt32.size
  · rw [UInt32.toNat_ofNatClamp_of_lt h]
    simp only [UInt32.size] at h ⊢
    omega
  · rw [UInt32.toNat_ofNatClamp_of_le (by omega)]
    simp only [UInt32.size] at h ⊢
    omega

theorem unsigned_roundTrips (u : UInt32) : RoundTrips putUnsigned extractUnsigned u := by
  refine ⟨putNat_ne_nil _, fun w => UInt32.toNat_inj.mp ?_⟩
  have := u.toNat_lt
  rw [putUnsigned, toNat_extractUnsigned_putNat]
  simp only [UInt32.size]
  omega

theorem signed_scan_putInt (z : Int32) :
    skipws (putInt z) ≠ [] ∧ signed (scanNumber (skipws (putInt z))) = z.toInt := by
  unfold putInt
  by_cases hz : z.toInt < 0
  · rw [if_pos hz, scanNumber_neg, signed]
    have hlit : lit "-" = [45] := by decide
    refine ⟨?_, by omega⟩
    rw [hlit, List.singleton_append, skipws_of_head (by decide)]
    simp
  · rw [if_neg hz, scanNumber_putNat, signed]
    exact ⟨skipws_putNat_ne_nil _, by omega⟩

theorem int_roundTrips (z : Int32) : RoundTrips putInt extractInt z := by
  obtain ⟨hne, hval⟩ := signed_scan_putInt z
  refine ⟨fun h => hne (by rw [h]; rfl), fun w => ?_⟩
  rw [extractInt, if_neg hne, hval]
  exact Int32.toInt.inj (Int32.toInt_ofIntClamp z.minValue_le_toInt z.toInt_le)

theorem bool_roundTrips (b : Bool) : RoundTrips putBool extractBool b := by
  cases b
  · exact ⟨by decide, by intro w; cases w <;> decide⟩
  · exact ⟨by decide, by intro w; cases w <;> decide⟩

end CxxStream
