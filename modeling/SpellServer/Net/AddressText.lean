import Mathlib.Algebra.Order.Group.Nat
import SpellServer.Net.Cidr

/-!
# Texts of addresses

What the readers consume holds no `/`, so that a network is cut off its prefix
at the right place.  Every address has a text.
-/

namespace SpellServer

namespace Parser

/-- The digits at the front of a text. -/
def leadingDigits (radix : ℕ) (text : List Char) : List Char :=
  text.takeWhile fun char => (toDigit radix char).isSome

def afterDigits (radix : ℕ) (text : List Char) : List Char :=
  text.dropWhile fun char => (toDigit radix char).isSome

theorem drop_leadingDigits (radix : ℕ) (text : List Char) :
    text.drop (leadingDigits radix text).length = afterDigits radix text := by
  have parts : leadingDigits radix text ++ afterDigits radix text = text :=
    List.takeWhile_append_dropWhile
  conv => lhs; rw [← parts]
  conv => lhs; enter [1, 1]; rw [parts]
  exact List.drop_left

/-- What is left of a text once a number has been read. -/
theorem readNumber_eq_some {radix maxDigits bound : ℕ} {allowZeroPrefix : Bool}
    {text rest : List Char} {number : ℕ}
    (read : readNumber radix maxDigits bound allowZeroPrefix text = some (number, rest)) :
    rest = afterDigits radix text := by
  unfold readNumber at read
  dsimp only at read
  split_ifs at read
  cases read
  exact drop_leadingDigits radix text

/-! ## What is consumed -/

/-- What was read stands in front of what is left, and has no `/`. -/
def CutsOff (text rest : List Char) : Prop :=
  ∃ front, text = front ++ rest ∧ '/' ∉ front

namespace CutsOff

variable {text middle rest : List Char}

theorem refl (text : List Char) : CutsOff text text := ⟨[], rfl, List.not_mem_nil⟩

theorem trans (first : CutsOff text middle) (second : CutsOff middle rest) : CutsOff text rest := by
  obtain ⟨front, rfl, clean⟩ := first
  obtain ⟨later, rfl, cleanLater⟩ := second
  refine ⟨front ++ later, (List.append_assoc ..).symm, ?_⟩
  intro member
  rcases List.mem_append.mp member with before | after
  · exact clean before
  · exact cleanLater after

theorem readGivenChar {target : Char} (given : target ≠ '/')
    (read : readGivenChar target text = some rest) : CutsOff text rest := by
  cases text with
  | nil => cases read
  | cons char text =>
      simp only [Parser.readGivenChar, Option.ite_none_right_eq_some, Option.some.injEq] at read
      obtain ⟨rfl, rfl⟩ := read
      refine ⟨[char], rfl, ?_⟩
      intro member
      exact given (List.mem_singleton.mp member).symm

theorem readSeparator {α : Type} {sep : Char} {index : ℕ} {value : α}
    {inner : List Char → Option (α × List Char)} (given : sep ≠ '/')
    (item : ∀ {text rest value}, inner text = some (value, rest) → CutsOff text rest)
    (read : readSeparator sep index inner text = some (value, rest)) : CutsOff text rest := by
  unfold Parser.readSeparator at read
  split at read
  · obtain ⟨middle, separator, read⟩ := Option.bind_eq_some_iff.mp read
    exact (readGivenChar given separator).trans (item read)
  · exact item read

theorem readNumber {radix maxDigits bound number : ℕ} {allowZeroPrefix : Bool}
    (read : readNumber radix maxDigits bound allowZeroPrefix text = some (number, rest)) :
    CutsOff text rest := by
  rw [readNumber_eq_some read]
  refine ⟨leadingDigits radix text, List.takeWhile_append_dropWhile.symm, ?_⟩
  intro member
  have digits := List.all_eq_true.mp (List.all_takeWhile (l := text)) '/' member
  simp [toDigit] at digits

theorem readIpv4Addr {bits : BitVec 32} (read : readIpv4Addr text = some (bits, rest)) :
    CutsOff text rest := by
  have octet : ∀ {index : ℕ} {text rest : List Char} {number : ℕ},
      Parser.readSeparator '.' index (Parser.readNumber 10 3 256 false) text = some (number, rest) →
        CutsOff text rest := readSeparator (by decide) readNumber
  obtain ⟨⟨_, first⟩, one, read⟩ := Option.bind_eq_some_iff.mp read
  obtain ⟨⟨_, second⟩, two, read⟩ := Option.bind_eq_some_iff.mp read
  obtain ⟨⟨_, third⟩, three, read⟩ := Option.bind_eq_some_iff.mp read
  obtain ⟨⟨_, fourth⟩, four, read⟩ := Option.bind_eq_some_iff.mp read
  cases read
  exact (((octet one).trans (octet two)).trans (octet three)).trans (octet four)

theorem readGroups (remaining index : ℕ) (text : List Char) :
    CutsOff text (readGroups remaining index text).2.2 := by
  induction remaining generalizing index text with
  | zero => exact refl text
  | succ remaining induction =>
      unfold Parser.readGroups
      split
      · rename_i bits rest embedded
        split at embedded
        · exact readSeparator (by decide) readIpv4Addr embedded
        · cases embedded
      · split
        · exact refl text
        · rename_i group rest read
          exact (readSeparator (by decide) readNumber read).trans (induction (index + 1) rest)

theorem readIpv6Addr {bits : BitVec 128} (read : readIpv6Addr text = some (bits, rest)) :
    CutsOff text rest := by
  have head := readGroups 8 0 text
  unfold Parser.readIpv6Addr at read
  dsimp only at read
  split at read
  · cases read
    exact head
  · split at read
    · cases read
    · obtain ⟨one, first, read⟩ := Option.bind_eq_some_iff.mp read
      obtain ⟨two, second, read⟩ := Option.bind_eq_some_iff.mp read
      cases read
      exact ((head.trans (readGivenChar (by decide) first)).trans
        (readGivenChar (by decide) second)).trans (readGroups _ 0 two)

end CutsOff

end Parser

namespace IpAddr

theorem parse_eq_some {text : List Char} {ip : IpAddr} (parsed : parse text = some ip) :
    Parser.readIpAddr text = some (ip, []) := by
  unfold parse at parsed
  split at parsed
  · rename_i found read
    cases parsed
    exact read
  · cases parsed

/-- The text of an address has no `/`. -/
theorem not_mem_of_parse {text : List Char} {ip : IpAddr} (parsed : parse text = some ip) :
    '/' ∉ text := by
  have read := parse_eq_some parsed
  have cut : Parser.CutsOff text [] := by
    unfold Parser.readIpAddr at read
    rcases Option.or_eq_some_iff.mp read with four | ⟨_, six⟩
    · obtain ⟨⟨_, rest⟩, address, equal⟩ := Option.map_eq_some_iff.mp four
      cases equal
      exact .readIpv4Addr address
    · obtain ⟨⟨_, rest⟩, address, equal⟩ := Option.map_eq_some_iff.mp six
      cases equal
      exact .readIpv6Addr address
  obtain ⟨front, rfl, clean⟩ := cut
  rw [List.append_nil]
  exact clean

end IpAddr

/-! ## A text of every address -/

namespace Parser

/-- A number is read up to the first character that is no digit. -/
theorem readNumber_append {radix maxDigits bound : ℕ} {allowZeroPrefix : Bool}
    {digits rest : List Char} (nonempty : digits ≠ []) (short : digits.length ≤ maxDigits)
    (all : ∀ char ∈ digits, (toDigit radix char).isSome = true)
    (stops : ∀ char ∈ rest.head?, toDigit radix char = none)
    (prefixed : allowZeroPrefix = true ∨ digits.head? ≠ some '0' ∨ digits.length ≤ 1)
    (fits : digitsValue radix digits < bound) :
    readNumber radix maxDigits bound allowZeroPrefix (digits ++ rest) =
      some (digitsValue radix digits, rest) := by
  have leading : (digits ++ rest).takeWhile (fun char => (toDigit radix char).isSome) = digits := by
    rw [List.takeWhile_append_of_pos all]
    cases rest with
    | nil => simp
    | cons char rest =>
        have stop := stops char rfl
        rw [List.takeWhile_cons_of_neg (by simp [stop]), List.append_nil]
  have first : (digits ++ rest).head? = digits.head? := by
    cases digits with
    | nil => exact absurd rfl nonempty
    | cons => rfl
  have positive : digits.length ≠ 0 := by
    intro zero
    exact nonempty (List.length_eq_zero_iff.mp zero)
  have accepted : ¬(!allowZeroPrefix && decide (digits.head? = some '0') &&
      decide (digits.length > 1)) = true := by
    simp only [Bool.and_eq_true, Bool.not_eq_true', decide_eq_true_eq]
    intro rejected
    rcases prefixed with allowed | other | single
    · rw [allowed] at rejected
      cases rejected.1.1
    · exact other rejected.1.2
    · omega
  unfold readNumber
  dsimp only
  rw [leading, first, if_neg (by omega), if_neg positive, if_neg accepted, if_pos fits,
    List.drop_left]

def octetText (octet : ℕ) : List Char := Nat.toDigits 10 octet

theorem readNumber_octet {octet : ℕ} (small : octet < 256) {rest : List Char}
    (stops : ∀ char ∈ rest.head?, toDigit 10 char = none) :
    readNumber 10 3 256 false (octetText octet ++ rest) = some (octet, rest) := by
  have table : ∀ octet < 256, octetText octet ≠ [] ∧ (octetText octet).length ≤ 3 ∧
      (octetText octet).all (fun char => (toDigit 10 char).isSome) = true ∧
      ((octetText octet).head? ≠ some '0' ∨ (octetText octet).length ≤ 1) ∧
      digitsValue 10 (octetText octet) = octet := by
    decide +kernel
  obtain ⟨nonempty, short, digits, unprefixed, value⟩ := table octet small
  have all := List.all_eq_true.mp digits
  rw [readNumber_append nonempty short all stops (Or.inr unprefixed) (by omega), value]

def groupText (group : ℕ) : List Char :=
  [Nat.digitChar (group / 4096), Nat.digitChar (group / 256 % 16), Nat.digitChar (group / 16 % 16),
    Nat.digitChar (group % 16)]

theorem toDigit_digitChar (digit : ℕ) (small : digit < 16) :
    toDigit 16 (Nat.digitChar digit) = some digit ∧ Nat.digitChar digit ≠ '.' := by
  have table : ∀ digit < 16, toDigit 16 (Nat.digitChar digit) = some digit ∧
      Nat.digitChar digit ≠ '.' := by decide
  exact table digit small

theorem readNumber_group {group : ℕ} (small : group < 65536) {rest : List Char}
    (stops : ∀ char ∈ rest.head?, toDigit 16 char = none) :
    readNumber 16 4 65536 true (groupText group ++ rest) = some (group, rest) := by
  have one := toDigit_digitChar (group / 4096) (by omega)
  have two := toDigit_digitChar (group / 256 % 16) (by omega)
  have three := toDigit_digitChar (group / 16 % 16) (by omega)
  have four := toDigit_digitChar (group % 16) (by omega)
  have value : digitsValue 16 (groupText group) = group := by
    simp only [digitsValue, groupText, List.foldl_cons, List.foldl_nil, one.1, two.1, three.1,
      four.1, Option.getD_some]
    omega
  have all : ∀ char ∈ groupText group, (toDigit 16 char).isSome = true := by
    simp only [groupText, List.mem_cons, List.not_mem_nil, or_false, forall_eq_or_imp, forall_eq,
      one.1, two.1, three.1, four.1, Option.isSome_some, and_self]
  rw [readNumber_append (by simp [groupText]) (le_refl 4) all stops (Or.inl rfl) (by omega), value]

theorem dot_not_mem_groupText {group : ℕ} (small : group < 65536) : '.' ∉ groupText group := by
  have one := toDigit_digitChar (group / 4096) (by omega)
  have two := toDigit_digitChar (group / 256 % 16) (by omega)
  have three := toDigit_digitChar (group / 16 % 16) (by omega)
  have four := toDigit_digitChar (group % 16) (by omega)
  simp only [groupText, List.mem_cons, List.not_mem_nil, or_false, not_or]
  exact ⟨one.2.symm, two.2.symm, three.2.symm, four.2.symm⟩

theorem readGivenChar_afterDigits {front : List Char} (clean : '.' ∉ front) (more : List Char) :
    readGivenChar '.' (afterDigits 10 (front ++ ':' :: more)) = none := by
  induction front with
  | nil => rfl
  | cons char front induction =>
      obtain ⟨differs, clean⟩ := not_or.mp (List.mem_cons.not.mp clean)
      rw [List.cons_append, afterDigits, List.dropWhile_cons]
      split
      · exact induction clean
      · exact if_neg (Ne.symm differs)

/-- A text with a `:` before any `.` is no IPv4 address. -/
theorem readIpv4Addr_colon {front more : List Char} (clean : '.' ∉ front) :
    readIpv4Addr (front ++ ':' :: more) = none := by
  have stuck := readGivenChar_afterDigits clean more
  unfold readIpv4Addr
  cases read : readNumber 10 3 256 false (front ++ ':' :: more) with
  | none => simp [readSeparator, read]
  | some octet =>
      obtain ⟨number, rest⟩ := octet
      have left := readNumber_eq_some read
      subst left
      simp [readSeparator, read, stuck]

theorem readIpv4Addr_octets {one two three four : ℕ} (first : one < 256) (second : two < 256)
    (third : three < 256) (fourth : four < 256) :
    readIpv4Addr (octetText one ++ '.' :: (octetText two ++ '.' :: (octetText three ++
      '.' :: (octetText four ++ [])))) =
        some (BitVec.ofNat 32 (((one * 256 + two) * 256 + three) * 256 + four), []) := by
  have dot : ∀ more : List Char, ∀ char ∈ ('.' :: more).head?, toDigit 10 char = none := by
    intro more char head
    cases head
    rfl
  have ends : ∀ char ∈ ([] : List Char).head?, toDigit 10 char = none := by
    intro char head
    cases head
  simp only [readIpv4Addr, readSeparator, readGivenChar, readNumber_octet first (dot _),
    readNumber_octet second (dot _), readNumber_octet third (dot _), readNumber_octet fourth ends,
    gt_iff_lt, lt_irrefl, if_true, if_false, Nat.zero_lt_succ, Option.bind_some,
    Option.bind_eq_bind]

theorem colon_stops {groups : List ℕ} :
    ∀ char ∈ (groups.flatMap fun group => ':' :: groupText group).head?,
      toDigit 16 char = none := by
  intro char head
  cases groups with
  | nil => cases head
  | cons =>
      cases head
      rfl

/-- The groups after the first one. -/
theorem readGroups_colons (groups : List ℕ) (small : ∀ group ∈ groups, group < 65536) (index : ℕ) :
    readGroups groups.length (index + 1) (groups.flatMap fun group => ':' :: groupText group) =
      (groups, false, []) := by
  induction groups generalizing index with
  | nil => rfl
  | cons group groups induction =>
      have fits := small group List.mem_cons_self
      have rest := induction (fun other member => small other (List.mem_cons_of_mem group member))
        (index + 1)
      have unembedded : (if groups.length > 0 then readSeparator ':' (index + 1) readIpv4Addr
          (':' :: (groupText group ++ groups.flatMap fun group => ':' :: groupText group))
            else none) = none := by
        cases groups with
        | nil => rfl
        | cons other groups =>
            rw [List.flatMap_cons, List.cons_append]
            simp only [readSeparator, readGivenChar, gt_iff_lt, Nat.zero_lt_succ, if_true,
              Option.bind_some, readIpv4Addr_colon (dot_not_mem_groupText fits), ite_self]
      rw [List.flatMap_cons, List.cons_append, List.length_cons, readGroups, unembedded]
      simp only [readSeparator, readGivenChar, gt_iff_lt, Nat.zero_lt_succ, if_true,
        Option.bind_some, readNumber_group fits colon_stops, rest]

/-- The groups of a number, the least last. -/
def groupsOf : ℕ → ℕ → List ℕ
  | 0, _ => []
  | count + 1, number => groupsOf count (number / 65536) ++ [number % 65536]

theorem length_groupsOf (count number : ℕ) : (groupsOf count number).length = count := by
  induction count generalizing number with
  | zero => rfl
  | succ count induction => simp [groupsOf, induction]

theorem groupsOf_small {count number : ℕ} : ∀ group ∈ groupsOf count number, group < 65536 := by
  induction count generalizing number with
  | zero =>
      intro group member
      cases member
  | succ count induction =>
      intro group member
      rcases List.mem_append.mp member with before | last
      · exact induction group before
      · rw [List.mem_singleton.mp last]
        exact Nat.mod_lt _ (by decide)

theorem foldl_groupsOf {count number : ℕ} (fits : number < 65536 ^ count) :
    (groupsOf count number).foldl (fun value group => value * 65536 + group) 0 = number := by
  induction count generalizing number with
  | zero =>
      rw [pow_zero] at fits
      exact (Nat.lt_one_iff.mp fits).symm
  | succ count induction =>
      have shorter : number / 65536 < 65536 ^ count := by
        rw [Nat.div_lt_iff_lt_mul (by decide)]
        rw [pow_succ] at fits
        exact fits
      rw [groupsOf, List.foldl_append, induction shorter, List.foldl_cons, List.foldl_nil]
      omega

theorem fromGroups_groupsOf (bits : BitVec 128) : fromGroups (groupsOf 8 bits.toNat) = bits := by
  unfold fromGroups
  rw [foldl_groupsOf (lt_of_lt_of_le bits.isLt (by decide)), BitVec.ofNat_toNat, BitVec.setWidth_eq]

end Parser

namespace IpAddr

theorem parse_of_readIpv4Addr {text : List Char} {bits : BitVec 32}
    (read : Parser.readIpv4Addr text = some (bits, [])) : parse text = some (.v4 bits) := by
  unfold parse Parser.readIpAddr
  rw [read]
  rfl

theorem parse_of_readIpv6Addr {text : List Char} {bits : BitVec 128}
    (other : Parser.readIpv4Addr text = none)
    (read : Parser.readIpv6Addr text = some (bits, [])) : parse text = some (.v6 bits) := by
  unfold parse Parser.readIpAddr
  rw [other, read]
  rfl

theorem exists_text_v4 (bits : BitVec 32) : ∃ text, parse text = some (.v4 bits) := by
  have small := bits.isLt
  have read := @Parser.readIpv4Addr_octets (bits.toNat / 16777216) (bits.toNat / 65536 % 256)
    (bits.toNat / 256 % 256) (bits.toNat % 256) (by omega) (by omega) (by omega) (by omega)
  have number : ((bits.toNat / 16777216 * 256 + bits.toNat / 65536 % 256) * 256 +
      bits.toNat / 256 % 256) * 256 + bits.toNat % 256 = bits.toNat := by omega
  rw [number, BitVec.ofNat_toNat, BitVec.setWidth_eq] at read
  exact ⟨_, parse_of_readIpv4Addr read⟩

/-- All eight groups, none left out. -/
theorem exists_text_v6 (bits : BitVec 128) : ∃ text, parse text = some (.v6 bits) := by
  have length := Parser.length_groupsOf 8 bits.toNat
  have small := @Parser.groupsOf_small 8 bits.toNat
  have value := Parser.fromGroups_groupsOf bits
  generalize Parser.groupsOf 8 bits.toNat = groups at length small value
  obtain ⟨first, second, rest, rfl⟩ : ∃ first second rest, groups = first :: second :: rest := by
    match groups, length with
    | first :: second :: rest, _ => exact ⟨first, second, rest, rfl⟩
  have fits := small first List.mem_cons_self
  have later := Parser.readGroups_colons (second :: rest)
    (fun group member => small group (List.mem_cons_of_mem first member)) 0
  have seven : (second :: rest).length = 7 := Nat.succ.inj length
  have other : Parser.readIpv4Addr (Parser.groupText first ++
      (second :: rest).flatMap fun group => ':' :: Parser.groupText group) = none := by
    rw [List.flatMap_cons, List.cons_append]
    exact Parser.readIpv4Addr_colon (Parser.dot_not_mem_groupText fits)
  have read : Parser.readGroups 8 0 (Parser.groupText first ++
      (second :: rest).flatMap fun group => ':' :: Parser.groupText group) =
        (first :: second :: rest, false, []) := by
    rw [seven] at later
    rw [Parser.readGroups]
    simp only [Parser.readSeparator, gt_iff_lt, lt_irrefl, if_false, other, ite_self,
      Parser.readNumber_group fits Parser.colon_stops, later]
  refine ⟨_, parse_of_readIpv6Addr other ?_⟩
  unfold Parser.readIpv6Addr
  rw [read]
  dsimp only
  rw [if_pos length, value]

/-- Every address is written by some text. -/
theorem exists_text (ip : IpAddr) : ∃ text, parse text = some ip := by
  cases ip with
  | v4 bits => exact exists_text_v4 bits
  | v6 bits => exact exists_text_v6 bits

end IpAddr

end SpellServer
