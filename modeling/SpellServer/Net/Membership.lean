import Mathlib.Data.List.TakeWhile
import SpellServer.Net.AddressText

/-!
# Membership in a network

A network contains the addresses of its family that begin with its prefix,
whatever host bits its text was written with.
-/

namespace SpellServer

namespace IpAddr

/-- The top bits are the same. -/
def SameTopBits {width : ℕ} (prefixLength : ℕ) (one two : BitVec width) : Prop :=
  ∀ index < prefixLength, one.getMsbD index = two.getMsbD index

instance {width : ℕ} (prefixLength : ℕ) (one two : BitVec width) :
    Decidable (SameTopBits prefixLength one two) :=
  inferInstanceAs (Decidable (∀ index < prefixLength, _))

/-- Addresses of one family with the same top bits. -/
def SamePrefix (prefixLength : ℕ) : IpAddr → IpAddr → Prop
  | .v4 one, .v4 two => SameTopBits prefixLength one two
  | .v6 one, .v6 two => SameTopBits prefixLength one two
  | _, _ => False

instance (prefixLength : ℕ) : (one two : IpAddr) → Decidable (SamePrefix prefixLength one two)
  | .v4 one, .v4 two => inferInstanceAs (Decidable (SameTopBits prefixLength one two))
  | .v6 one, .v6 two => inferInstanceAs (Decidable (SameTopBits prefixLength one two))
  | .v4 _, .v6 _ | .v6 _, .v4 _ => isFalse id

/-- The length fits below the width, and the shift is by less than the width. -/
def ShiftFits (prefixLength : ℕ) (ip : IpAddr) : Prop :=
  prefixLength ≠ 0 → prefixLength ≤ ip.width ∧ ip.width - prefixLength < ip.width

/-- The bits that a mask keeps. -/
theorem getMsbD_mask {width prefixLength : ℕ} (bits : BitVec width) (fits : prefixLength ≤ width)
    (index : ℕ) :
    (if prefixLength = 0 then BitVec.ofNat width 0
      else bits &&& (BitVec.allOnes width <<< (width - prefixLength))).getMsbD index =
      (bits.getMsbD index && decide (index < prefixLength)) := by
  split
  · rename_i zero
    rw [BitVec.getMsbD_zero, zero]
    simp
  · rw [BitVec.getMsbD_and, BitVec.getMsbD_shiftLeft, BitVec.getMsbD_allOnes]
    congr 1
    rw [decide_eq_decide]
    omega

theorem mask_eq_iff {width prefixLength : ℕ} (one two : BitVec width)
    (fits : prefixLength ≤ width) :
    (if prefixLength = 0 then BitVec.ofNat width 0
      else one &&& (BitVec.allOnes width <<< (width - prefixLength))) =
      (if prefixLength = 0 then BitVec.ofNat width 0
        else two &&& (BitVec.allOnes width <<< (width - prefixLength))) ↔
      SameTopBits prefixLength one two := by
  constructor
  · intro same index below
    have bit := congrArg (BitVec.getMsbD · index) same
    simp only [getMsbD_mask _ fits, decide_eq_true below, Bool.and_true] at bit
    exact bit
  · intro same
    apply BitVec.eq_of_getMsbD_eq
    intro index _
    rw [getMsbD_mask one fits, getMsbD_mask two fits]
    by_cases below : index < prefixLength
    · rw [same index below]
    · rw [decide_eq_false below, Bool.and_false, Bool.and_false]

/-- Masked addresses are compared on their prefix. -/
theorem maskIp_eq_iff {one two : IpAddr} {prefixLength : ℕ} (fits : prefixLength ≤ two.width) :
    one.maskIp prefixLength = two.maskIp prefixLength ↔ SamePrefix prefixLength one two := by
  cases one with
  | v4 one =>
      cases two with
      | v4 two =>
          rw [maskIp, maskIp, IpAddr.v4.injEq]
          exact mask_eq_iff one two fits
      | v6 two =>
          constructor
          · intro same
            cases same
          · intro same
            exact same.elim
  | v6 one =>
      cases two with
      | v4 two =>
          constructor
          · intro same
            cases same
          · intro same
            exact same.elim
      | v6 two =>
          rw [maskIp, maskIp, IpAddr.v6.injEq]
          exact mask_eq_iff one two fits

theorem SamePrefix.isIpv4 {one two : IpAddr} {prefixLength : ℕ}
    (same : SamePrefix prefixLength one two) : one.isIpv4 = two.isIpv4 := by
  cases one <;> cases two <;> first | rfl | exact same.elim

theorem SamePrefix.shorter {one two : IpAddr} {shorter longer : ℕ}
    (same : SamePrefix longer one two) (order : shorter ≤ longer) :
    SamePrefix shorter one two := by
  cases one <;> cases two
  · intro index below
    exact same index (lt_of_lt_of_le below order)
  · exact same.elim
  · exact same.elim
  · intro index below
    exact same index (lt_of_lt_of_le below order)

theorem SamePrefix.symm {one two : IpAddr} {prefixLength : ℕ}
    (same : SamePrefix prefixLength one two) : SamePrefix prefixLength two one := by
  cases one <;> cases two
  · intro index below
    exact (same index below).symm
  · exact same.elim
  · exact same.elim
  · intro index below
    exact (same index below).symm

theorem width_of_isIpv4 {one two : IpAddr} (family : one.isIpv4 = two.isIpv4) :
    one.width = two.width := by
  cases one <;> cases two <;> first | rfl | cases family

theorem shiftFits_of_le {ip : IpAddr} {prefixLength : ℕ} (fits : prefixLength ≤ ip.width) :
    ShiftFits prefixLength ip := by
  intro nonzero
  exact ⟨fits, by omega⟩

theorem isIpv4_maskIp (prefixLength : ℕ) (ip : IpAddr) :
    (ip.maskIp prefixLength).isIpv4 = ip.isIpv4 := by
  cases ip <;> rfl

end IpAddr

/-! ## The texts of networks -/

/-- A decimal number, behind a plus sign or none. -/
def DecimalText (text : List Char) (number : ℕ) : Prop :=
  ∃ digits, (text = digits ∨ text = '+' :: digits) ∧ digits ≠ [] ∧
    digits.all Char.isDigit = true ∧ digitsValue 10 digits = number

def withoutPlus (text : List Char) : List Char :=
  match text with
  | '+' :: rest => rest
  | _ => text

theorem withoutPlus_digits {digits : List Char} (all : digits.all Char.isDigit = true) :
    withoutPlus digits = digits := by
  unfold withoutPlus
  split
  · cases all
  · rfl

theorem parseU8_decimal {text : List Char} {number : ℕ} (written : DecimalText text number) :
    parseU8 text = if number < 256 then some number else none := by
  obtain ⟨digits, form, nonempty, all, value⟩ := written
  have stripped : withoutPlus text = digits := by
    rcases form with rfl | rfl
    · exact withoutPlus_digits all
    · rfl
  have parsed : parseU8 text = if withoutPlus text = [] then none
      else if (withoutPlus text).all Char.isDigit &&
          decide (digitsValue 10 (withoutPlus text) < 256) then
        some (digitsValue 10 (withoutPlus text))
      else none := rfl
  rw [parsed, stripped, if_neg nonempty, all, value, Bool.true_and]
  simp only [decide_eq_true_eq]

namespace Cidr

/-- The network of an address and a prefix length. -/
def ofPrefix (ip : IpAddr) (prefixLength : ℕ) (fits : prefixLength ≤ ip.width) : Cidr :=
  { network := ip.maskIp prefixLength
    prefixLength
    bounded := fits.trans (Nat.le_of_eq (IpAddr.width_maskIp prefixLength ip).symm)
    masked := ip.maskIp_maskIp prefixLength }

variable {ip : IpAddr} {addrText prefixText : List Char} {prefixLength : ℕ}

/-- The slash between address and prefix is the first one. -/
theorem parse_slash (parsed : IpAddr.parse addrText = some ip) (canonical : ip.canonicalIp = ip) :
    parse (.ofList (addrText ++ '/' :: prefixText)) =
      match parseU8 prefixText with
      | none => .error (.invalidPrefix (.ofList (addrText ++ '/' :: prefixText)))
      | some prefixLength =>
          if fits : prefixLength ≤ ip.width then .ok (ofPrefix ip prefixLength fits)
          else .error (.prefixTooLong prefixLength ip.width
            (.ofList (addrText ++ '/' :: prefixText))) := by
  have clean : ∀ char ∈ addrText, (decide (char ≠ '/')) = true := by
    intro char member
    apply decide_eq_true
    intro slash
    exact IpAddr.not_mem_of_parse parsed (slash ▸ member)
  have addrPart : (addrText ++ '/' :: prefixText).takeWhile (· ≠ '/') = addrText := by
    rw [List.takeWhile_append_of_pos clean, List.takeWhile_cons_of_neg (by simp), List.append_nil]
  have prefixPart : (addrText ++ '/' :: prefixText).dropWhile (· ≠ '/') = '/' :: prefixText := by
    rw [List.dropWhile_append_of_pos clean, List.dropWhile_cons_of_neg (by simp)]
  unfold parse
  simp only [String.toList_ofList, addrPart, prefixPart, parsed, Option.map_some, canonical]
  cases parseU8 prefixText <;> rfl

theorem parse_bare (parsed : IpAddr.parse addrText = some ip) (canonical : ip.canonicalIp = ip) :
    parse (.ofList addrText) = .ok (ofPrefix ip ip.width (le_refl _)) := by
  have clean : ∀ char ∈ addrText, (decide (char ≠ '/')) = true := by
    intro char member
    apply decide_eq_true
    intro slash
    exact IpAddr.not_mem_of_parse parsed (slash ▸ member)
  have addrPart : addrText.takeWhile (· ≠ '/') = addrText := List.takeWhile_eq_self_iff.mpr clean
  have prefixPart : addrText.dropWhile (· ≠ '/') = [] := List.dropWhile_eq_nil_iff.mpr clean
  unfold parse
  simp only [String.toList_ofList, addrPart, prefixPart, parsed, Option.map_some, canonical,
    le_refl, dif_pos]
  rfl

theorem ofPrefix_contains (fits : prefixLength ≤ ip.width) (probe : IpAddr) :
    (ofPrefix ip prefixLength fits).contains probe = true ↔
      IpAddr.SamePrefix prefixLength probe.canonicalIp ip := by
  have family : (ofPrefix ip prefixLength fits).network.isIpv4 = ip.isIpv4 :=
    IpAddr.isIpv4_maskIp prefixLength ip
  rw [← IpAddr.maskIp_eq_iff fits]
  unfold contains
  dsimp only
  split
  · rename_i differs
    rw [family] at differs
    constructor
    · intro never
      cases never
    · intro same
      exact absurd ((IpAddr.maskIp_eq_iff fits).mp same).isIpv4 differs
  · exact decide_eq_true_iff

theorem ofPrefix_eq {one two : IpAddr} (fitsOne : prefixLength ≤ one.width)
    (fitsTwo : prefixLength ≤ two.width) (same : IpAddr.SamePrefix prefixLength one two) :
    ofPrefix one prefixLength fitsOne = ofPrefix two prefixLength fitsTwo := by
  have networks := (IpAddr.maskIp_eq_iff fitsTwo).mpr same
  unfold ofPrefix
  congr

/-- A mapped address is its IPv4 address to every network. -/
theorem contains_mapped (cidr : Cidr) {bits : BitVec 128} {mapped : BitVec 32}
    (maps : IpAddr.toIpv4Mapped bits = some mapped) :
    cidr.contains (.v6 bits) = cidr.contains (.v4 mapped) ∧
      (cidr.network.isIpv4 = false → cidr.contains (.v6 bits) = false) := by
  have canonical : (IpAddr.v6 bits).canonicalIp = .v4 mapped := by
    rw [IpAddr.canonicalIp, maps]
  constructor
  · unfold contains
    rw [canonical]
    rfl
  · intro six
    unfold contains
    rw [canonical, six]
    rfl

end Cidr

/-- An IPv4 address, or an IPv6 address that is not IPv4-mapped. -/
def IpAddr.Unmapped : IpAddr → Prop
  | .v4 _ => True
  | .v6 bits => toIpv4Mapped bits = none

theorem IpAddr.Unmapped.canonicalIp_eq {ip : IpAddr} (unmapped : ip.Unmapped) :
    ip.canonicalIp = ip := by
  cases ip with
  | v4 => rfl
  | v6 bits =>
      unfold Unmapped at unmapped
      rw [canonicalIp, unmapped]

/-- A network is what its text says: the addresses of its family that begin with the
prefix. -/
theorem membership_is_prefix_equality {ip : IpAddr} (unmapped : ip.Unmapped) :
    (∃ addrText, IpAddr.parse addrText = some ip) ∧
    (∀ addrText, IpAddr.parse addrText = some ip →
      Cidr.parse (.ofList addrText) = .ok (.ofPrefix ip ip.width (le_refl _)) ∧
      ∀ prefixText prefixLength, DecimalText prefixText prefixLength →
        (∀ fits : prefixLength ≤ ip.width,
          Cidr.parse (.ofList (addrText ++ '/' :: prefixText)) =
            .ok (.ofPrefix ip prefixLength fits)) ∧
        (ip.width < prefixLength →
          ∃ error, Cidr.parse (.ofList (addrText ++ '/' :: prefixText)) = .error error)) ∧
    ∀ prefixLength, ∀ fits : prefixLength ≤ ip.width,
      (∀ probe : IpAddr, (Cidr.ofPrefix ip prefixLength fits).contains probe = true ↔
        IpAddr.SamePrefix prefixLength probe.canonicalIp ip) ∧
      (∀ other, ∀ fitsOther : prefixLength ≤ other.width,
        IpAddr.SamePrefix prefixLength other ip →
          Cidr.ofPrefix other prefixLength fitsOther = Cidr.ofPrefix ip prefixLength fits) ∧
      (∀ bits mapped, IpAddr.toIpv4Mapped bits = some mapped →
        (Cidr.ofPrefix ip prefixLength fits).contains (.v6 bits) =
            (Cidr.ofPrefix ip prefixLength fits).contains (.v4 mapped) ∧
          (ip.isIpv4 = false → (Cidr.ofPrefix ip prefixLength fits).contains (.v6 bits) = false)) ∧
      (∀ shorter, ∀ order : shorter ≤ prefixLength, ∀ probe,
        (Cidr.ofPrefix ip prefixLength fits).contains probe = true →
          (Cidr.ofPrefix ip shorter (order.trans fits)).contains probe = true) ∧
      IpAddr.ShiftFits prefixLength ip ∧
      ∀ probe : IpAddr,
        probe.canonicalIp.isIpv4 = (Cidr.ofPrefix ip prefixLength fits).network.isIpv4 →
        IpAddr.ShiftFits prefixLength probe.canonicalIp := by
  have canonical := unmapped.canonicalIp_eq
  refine ⟨ip.exists_text, ?texts, ?networks⟩
  case texts =>
    intro addrText parsed
    refine ⟨Cidr.parse_bare parsed canonical, ?_⟩
    intro prefixText prefixLength written
    have number := parseU8_decimal written
    have widths : ip.width ≤ 128 := by
      cases ip <;> simp [IpAddr.width]
    constructor
    · intro fits
      rw [Cidr.parse_slash parsed canonical, number, if_pos (by omega)]
      exact dif_pos fits
    · intro long
      rw [Cidr.parse_slash parsed canonical, number]
      by_cases byte : prefixLength < 256
      · rw [if_pos byte]
        exact ⟨_, dif_neg (not_le.mpr long)⟩
      · rw [if_neg byte]
        exact ⟨_, rfl⟩
  case networks =>
    intro prefixLength fits
    have family : (Cidr.ofPrefix ip prefixLength fits).network.isIpv4 = ip.isIpv4 :=
      IpAddr.isIpv4_maskIp prefixLength ip
    refine ⟨Cidr.ofPrefix_contains fits, ?_, ?_, ?_, IpAddr.shiftFits_of_le fits, ?_⟩
    · intro other fitsOther same
      exact Cidr.ofPrefix_eq fitsOther fits same
    · intro bits mapped maps
      have contained := (Cidr.ofPrefix ip prefixLength fits).contains_mapped maps
      rw [family] at contained
      exact contained
    · intro shorter order probe inside
      rw [Cidr.ofPrefix_contains] at inside ⊢
      exact inside.shorter order
    · intro probe same
      apply IpAddr.shiftFits_of_le
      rw [IpAddr.width_of_isIpv4 (same.trans family)]
      exact fits

theorem mapped_address_in_private_network :
    (Cidr.ofPrefix (.v4 0x0a000005#32) 8 (by decide)).contains (.v6 0xffff0a010203#128) = true :=
  ((@membership_is_prefix_equality (.v4 0x0a000005#32) trivial).2.2 8 (by decide)).1 _ |>.mpr
    (by decide)

end SpellServer
