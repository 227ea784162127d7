import Mathlib.Data.List.DropRight
import SpellServer.Library.Decimal

/-!
# Web origins

An absolute URI with an authority is written as a scheme, `://`, the authority
and what follows it: a path, a query, a fragment.  Its web origin is the scheme,
the host and the port.  An origin has a single text, in lower case and without
the default port of its scheme; reading that text gives the origin back.
-/

namespace Library

/-! ## The parts of a URI -/

/-- `rest` is the path with query and fragment. -/
structure UriParts where
  scheme : List Char
  authority : List Char
  rest : List Char
deriving DecidableEq, Repr

def endsAuthority (c : Char) : Bool := c = '/' || c = '?' || c = '#'

namespace UriParts

def read (text : List Char) : Option UriParts :=
  match text.dropWhile (· ≠ ':') with
  | ':' :: '/' :: '/' :: tail =>
      some
        { scheme := text.takeWhile (· ≠ ':')
          authority := tail.takeWhile fun c => !endsAuthority c
          rest := tail.dropWhile fun c => !endsAuthority c }
  | _ => none

def text (parts : UriParts) : List Char :=
  parts.scheme ++ ':' :: '/' :: '/' :: (parts.authority ++ parts.rest)

def path (parts : UriParts) : List Char :=
  parts.rest.takeWhile fun c => c ≠ '?' && c ≠ '#'

/-- The boundaries are where the reader puts them. -/
structure Separated (parts : UriParts) : Prop where
  scheme : ':' ∉ parts.scheme
  authority : ∀ c ∈ parts.authority, endsAuthority c = false
  rest : ∀ c, parts.rest.head? = some c → endsAuthority c = true

variable {parts : UriParts} {text : List Char}

theorem read_text (separated : parts.Separated) : read parts.text = some parts := by
  have schemeEnds : ∀ c ∈ parts.scheme, decide (c ≠ ':') = true := by
    intro c member
    exact decide_eq_true (fun colon => separated.scheme (colon ▸ member))
  have authorityEnds : ∀ c ∈ parts.authority, (!endsAuthority c) = true := by
    intro c member
    simp [separated.authority c member]
  have restStops : parts.rest.takeWhile (fun c => !endsAuthority c) = [] ∧
      parts.rest.dropWhile (fun c => !endsAuthority c) = parts.rest := by
    cases shape : parts.rest with
    | nil => exact ⟨rfl, rfl⟩
    | cons c rest =>
        have ends : endsAuthority c = true := separated.rest c (by rw [shape]; rfl)
        simp [ends]
  unfold read UriParts.text
  rw [List.dropWhile_append_of_pos schemeEnds, List.takeWhile_append_of_pos schemeEnds]
  simp [List.takeWhile_append_of_pos authorityEnds, List.dropWhile_append_of_pos authorityEnds,
    restStops]

theorem of_read (reads : read text = some parts) : parts.text = text ∧ parts.Separated := by
  unfold read at reads
  split at reads
  · rename_i tail after
    cases reads
    refine ⟨?_, ?_, ?_, ?_⟩
    · unfold UriParts.text
      rw [List.takeWhile_append_dropWhile, ← after, List.takeWhile_append_dropWhile]
    · intro member
      have different := List.mem_takeWhile_imp member
      simp at different
    · intro c member
      simpa using List.mem_takeWhile_imp member
    · intro c first
      have stopped := List.head?_dropWhile_not (fun c => !endsAuthority c) tail
      simp only [first] at stopped
      simpa using stopped
  · cases reads

end UriParts

/-! ## Host and port -/

/-- An address in brackets may have colons of its own. -/
def splitHost (text : List Char) : Option (List Char × List Char) :=
  if text.head? = some '[' then
    match text.dropWhile (· ≠ ']') with
    | _ :: suffix => some (text.takeWhile (· ≠ ']') ++ [']'], suffix)
    | [] => none
  else some (text.takeWhile (· ≠ ':'), text.dropWhile (· ≠ ':'))

/-- A port can be left out, before or after its colon. -/
def readPort : List Char → Option (Option ℕ)
  | [] => some none
  | ':' :: digits =>
      if digits.all Char.isDigit then
        some (if digits = [] then none else some (Decimal.value digits))
      else none
  | _ => none

theorem splitHost_literal {body suffix : List Char} (clean : ']' ∉ body) :
    splitHost ('[' :: (body ++ ']' :: suffix)) = some ('[' :: (body ++ [']']), suffix) := by
  have inside : ∀ c ∈ body, decide (c ≠ ']') = true := by
    intro c member
    exact decide_eq_true (fun bracket => clean (bracket ▸ member))
  have bracketed : ('[' :: (body ++ ']' :: suffix)).head? = some '[' := rfl
  unfold splitHost
  rw [if_pos bracketed, List.dropWhile_cons_of_pos (by decide),
    List.takeWhile_cons_of_pos (by decide), List.dropWhile_append_of_pos inside,
    List.takeWhile_append_of_pos inside]
  simp

theorem splitHost_named {host suffix : List Char} (unbracketed : host.head? ≠ some '[')
    (clean : ':' ∉ host) (starts : ∀ c, suffix.head? = some c → c = ':') :
    splitHost (host ++ suffix) = some (host, suffix) := by
  have inside : ∀ c ∈ host, decide (c ≠ ':') = true := by
    intro c member
    exact decide_eq_true (fun colon => clean (colon ▸ member))
  have stops : suffix.takeWhile (· ≠ ':') = [] ∧ suffix.dropWhile (· ≠ ':') = suffix := by
    cases shape : suffix with
    | nil => exact ⟨rfl, rfl⟩
    | cons c rest =>
        have colon : c = ':' := starts c (by rw [shape]; rfl)
        simp [colon]
  have open_free : (host ++ suffix).head? ≠ some '[' := by
    cases host with
    | nil =>
        intro bracket
        have colon := starts '[' bracket
        cases colon
    | cons c host => exact unbracketed
  unfold splitHost
  rw [if_neg open_free, List.takeWhile_append_of_pos inside, List.dropWhile_append_of_pos inside,
    stops.1, stops.2, List.append_nil]

/-- What is split off goes before its suffix, and splits off before any other. -/
theorem of_splitHost {text host suffix : List Char} (split : splitHost text = some (host, suffix)) :
    text = host ++ suffix ∧
      ∀ later, (∀ c, later.head? = some c → c = ':') →
        splitHost (host ++ later) = some (host, later) := by
  unfold splitHost at split
  split at split
  · rename_i bracketed
    obtain ⟨tail, rfl⟩ : ∃ tail, text = '[' :: tail := by
      cases text with
      | nil => cases bracketed
      | cons c tail => exact ⟨tail, by rw [Option.some.inj bracketed]⟩
    rw [List.dropWhile_cons_of_pos (by decide), List.takeWhile_cons_of_pos (by decide)] at split
    split at split
    · rename_i c rest after
      cases split
      have closes : c = ']' := by
        have stopped := List.head?_dropWhile_not (· ≠ ']') tail
        rw [after] at stopped
        simpa using stopped
      subst closes
      refine ⟨?_, ?_⟩
      · simp only [List.cons_append, List.append_assoc, List.nil_append]
        rw [← after, List.takeWhile_append_dropWhile]
      · intro later _
        simp only [List.cons_append, List.append_assoc, List.nil_append]
        apply splitHost_literal
        intro member
        simpa using List.mem_takeWhile_imp member
    · cases split
  · rename_i unbracketed
    cases split
    refine ⟨List.takeWhile_append_dropWhile.symm, ?_⟩
    intro later starts
    apply splitHost_named _ _ starts
    · intro bracketed
      cases text with
      | nil => cases bracketed
      | cons c tail =>
          by_cases colon : c = ':'
          · simp [colon] at bracketed
          · simp [colon] at bracketed unbracketed
            exact unbracketed bracketed
    · intro member
      simpa using List.mem_takeWhile_imp member

/-! ## Origins -/

inductive WebScheme where
  | http
  | https
deriving DecidableEq, Repr

namespace WebScheme

def text : WebScheme → List Char
  | .http => "http".toList
  | .https => "https".toList

def defaultPort : WebScheme → ℕ
  | .http => 80
  | .https => 443

def ofText (text : List Char) : Option WebScheme :=
  if text = "http".toList then some .http
  else if text = "https".toList then some .https
  else none

theorem ofText_text (scheme : WebScheme) : ofText scheme.text = some scheme := by
  cases scheme <;> decide

theorem eq_text_of_ofText {text : List Char} {scheme : WebScheme}
    (known : ofText text = some scheme) : text = scheme.text := by
  unfold ofText at known
  split at known
  · rename_i same
    cases known
    exact same
  · split at known
    · rename_i same
      cases known
      exact same
    · cases known

theorem text_plain (scheme : WebScheme) :
    (scheme.text.all fun c => !c.isUpper && c ≠ '@' && c ≠ ':') = true := by
  cases scheme <;> decide

theorem defaultPort_bounded (scheme : WebScheme) : scheme.defaultPort < 65536 := by
  cases scheme <;> decide

end WebScheme

/-- In lower case, without user information, and split off as a whole. -/
def isHost (host : List Char) : Bool :=
  !host.isEmpty && (host.all fun c => !c.isUpper && c ≠ '@' && !endsAuthority c) &&
    decide (splitHost host = some (host, []))

structure WebOrigin where
  scheme : WebScheme
  host : List Char
  port : ℕ
  hosted : isHost host = true
  bounded : port < 65536
deriving DecidableEq, Repr

def portText (scheme : WebScheme) (port : ℕ) : List Char :=
  if port = scheme.defaultPort then [] else ':' :: Nat.toDigits 10 port

namespace WebOrigin

def text (origin : WebOrigin) : List Char :=
  origin.scheme.text ++ ':' :: '/' :: '/' :: (origin.host ++ portText origin.scheme origin.port)

def ofParts (scheme : WebScheme) (host : List Char) (port : ℕ) : Option WebOrigin :=
  if valid : isHost host = true ∧ port < 65536 then
    some { scheme, host, port, hosted := valid.1, bounded := valid.2 }
  else none

/-- The origin of a URI.  Path, query, fragment and user information have no part
in it. -/
def read (text : List Char) : Option WebOrigin := do
  let parts ← UriParts.read text
  let scheme ← WebScheme.ofText (parts.scheme.map Char.toLower)
  let split ← splitHost (parts.authority.rtakeWhile (· ≠ '@'))
  let port ← readPort split.2
  ofParts scheme (split.1.map Char.toLower) (port.getD scheme.defaultPort)

end WebOrigin

theorem map_toLower_of_plain {text : List Char} (plain : ∀ c ∈ text, c.isUpper = false) :
    text.map Char.toLower = text := by
  conv => rhs; rw [← List.map_id text]
  apply List.map_congr_left
  intro c member
  have outside : ¬(c.val ≥ 'A'.val ∧ c.val ≤ 'Z'.val) := of_decide_eq_false (plain c member)
  exact dif_neg outside

theorem readPort_portText (scheme : WebScheme) (port : ℕ) :
    (readPort (portText scheme port)).map (fun given => given.getD scheme.defaultPort) =
      some port := by
  unfold portText
  split
  · rename_i default
    rw [default]
    rfl
  · have digits : (Nat.toDigits 10 port).all Char.isDigit = true :=
      List.all_eq_true.mpr fun c member => Nat.isDigit_of_mem_toDigits (by decide) (by decide) member
    simp [readPort, digits, Nat.toDigits_ne_nil, Decimal.value_toDigits]

theorem portText_starts (scheme : WebScheme) (port : ℕ) {c : Char}
    (first : (portText scheme port).head? = some c) : c = ':' := by
  unfold portText at first
  split at first
  · cases first
  · exact (Option.some.inj first).symm

theorem portText_plain (scheme : WebScheme) (port : ℕ) :
    ∀ c ∈ portText scheme port, c.isUpper = false ∧ c ≠ '@' ∧ endsAuthority c = false := by
  intro c member
  unfold portText at member
  split at member
  · cases member
  · rcases List.mem_cons.mp member with rfl | digit
    · decide
    · have decimal := Nat.isDigit_of_mem_toDigits (by decide) (by decide) digit
      refine ⟨?_, ?_, ?_⟩
      · have bounds := Char.isDigit_iff_toNat.mp decimal
        have below : ¬('A'.val ≤ c.val) := by
          rw [UInt32.le_iff_toNat_le]
          have largest : '9'.toNat = 57 := rfl
          have smallest : 'A'.val.toNat = 65 := rfl
          have same : c.val.toNat = c.toNat := rfl
          omega
        exact decide_eq_false fun upper => below upper.1
      · rintro rfl
        exact absurd decimal (by decide)
      · by_contra ends
        simp only [endsAuthority, Bool.not_eq_false, Bool.or_eq_true, decide_eq_true_eq] at ends
        rcases ends with (rfl | rfl) | rfl <;> exact absurd decimal (by decide)

theorem isHost_iff {host : List Char} : isHost host = true ↔
    host ≠ [] ∧ (∀ c ∈ host, c.isUpper = false ∧ c ≠ '@' ∧ endsAuthority c = false) ∧
      splitHost host = some (host, []) := by
  simp [isHost, and_assoc]

namespace WebOrigin

variable (origin : WebOrigin)

/-- What is written between `//` and the end. -/
def authority : List Char := origin.host ++ portText origin.scheme origin.port

theorem authority_plain : ∀ c ∈ origin.authority,
    c.isUpper = false ∧ c ≠ '@' ∧ endsAuthority c = false := by
  intro c member
  rcases List.mem_append.mp member with inHost | inPort
  · exact (isHost_iff.mp origin.hosted).2.1 c inHost
  · exact portText_plain origin.scheme origin.port c inPort

theorem splitHost_authority :
    splitHost origin.authority = some (origin.host, portText origin.scheme origin.port) := by
  obtain ⟨_, _, closed⟩ := isHost_iff.mp origin.hosted
  exact (of_splitHost closed).2 _ fun c first => portText_starts origin.scheme origin.port first

theorem parts_text : UriParts.read origin.text =
    some { scheme := origin.scheme.text, authority := origin.authority, rest := [] } := by
  have separated : UriParts.Separated
      { scheme := origin.scheme.text, authority := origin.authority, rest := [] } := by
    refine ⟨?_, ?_, ?_⟩
    · intro colon
      have plain := List.all_eq_true.mp origin.scheme.text_plain ':' colon
      simp at plain
    · intro c member
      exact (origin.authority_plain c member).2.2
    · intro c first
      cases first
  have reads := UriParts.read_text separated
  rw [UriParts.text, List.append_nil] at reads
  exact reads

/-- The text of an origin is read back. -/
theorem read_text : read origin.text = some origin := by
  obtain ⟨_, clean, _⟩ := isHost_iff.mp origin.hosted
  have lowerScheme : origin.scheme.text.map Char.toLower = origin.scheme.text := by
    apply map_toLower_of_plain
    intro c member
    have plain := List.all_eq_true.mp origin.scheme.text_plain c member
    simp only [Bool.and_eq_true, Bool.not_eq_true'] at plain
    exact plain.1.1
  have lowerHost : origin.host.map Char.toLower = origin.host :=
    map_toLower_of_plain fun c member => (clean c member).1
  have whole : origin.authority.rtakeWhile (· ≠ '@') = origin.authority :=
    List.rtakeWhile_eq_self_iff.mpr fun c member =>
      decide_eq_true (origin.authority_plain c member).2.1
  obtain ⟨given, ported, same⟩ :=
    Option.map_eq_some_iff.mp (readPort_portText origin.scheme origin.port)
  simp only [read, parts_text, lowerScheme, WebScheme.ofText_text, whole, splitHost_authority,
    ported, same, lowerHost, Option.bind_eq_bind, Option.bind_some, ofParts]
  rw [dif_pos ⟨origin.hosted, origin.bounded⟩]

end WebOrigin

/-! ## Texts of origins -/

/-- Absent, or the shortest decimal of a port other than the default. -/
def isPlainPort (scheme : List Char) : List Char → Bool
  | [] => true
  | ':' :: digits =>
      decide (digits = Nat.toDigits 10 (Decimal.value digits)) &&
        decide (Decimal.value digits < 65536) &&
        (WebScheme.ofText scheme).all fun scheme => Decimal.value digits ≠ scheme.defaultPort
  | _ => false

/-- No upper case, no user information, nothing after the authority, and a host
with a plain port. -/
def UriParts.isBare (parts : UriParts) : Bool :=
  parts.rest.isEmpty && ((parts.scheme ++ parts.authority).all fun c => !c.isUpper && c ≠ '@') &&
    (splitHost parts.authority).any fun split =>
      !split.1.isEmpty && isPlainPort parts.scheme split.2

theorem isPlainPort_portText (scheme : WebScheme) {port : ℕ} (bounded : port < 65536) :
    isPlainPort scheme.text (portText scheme port) = true := by
  unfold portText
  split
  · rfl
  · rename_i other
    simp [isPlainPort, Decimal.value_toDigits, bounded, WebScheme.ofText_text, other]

theorem exists_portText {scheme : WebScheme} {suffix : List Char}
    (plain : isPlainPort scheme.text suffix = true) :
    ∃ port, port < 65536 ∧ portText scheme port = suffix := by
  unfold isPlainPort at plain
  split at plain
  · exact ⟨scheme.defaultPort, scheme.defaultPort_bounded, if_pos rfl⟩
  · rename_i digits
    simp only [WebScheme.ofText_text, Option.all_some, Bool.and_eq_true, decide_eq_true_eq] at plain
    obtain ⟨⟨shortest, bounded⟩, other⟩ := plain
    refine ⟨Decimal.value digits, bounded, ?_⟩
    rw [portText, if_neg other, ← shortest]
  · cases plain

theorem UriParts.isBare_iff {parts : UriParts} : parts.isBare = true ↔
    parts.rest = [] ∧ (∀ c ∈ parts.scheme ++ parts.authority, c.isUpper = false ∧ c ≠ '@') ∧
      ∃ host suffix, splitHost parts.authority = some (host, suffix) ∧ host ≠ [] ∧
        isPlainPort parts.scheme suffix = true := by
  simp only [isBare, Bool.and_eq_true, List.isEmpty_iff, List.all_eq_true, Bool.not_eq_true',
    decide_eq_true_eq, Option.any_eq_true, Prod.exists, List.isEmpty_eq_false_iff, and_assoc]

theorem WebOrigin.isBare_parts (origin : WebOrigin) : UriParts.isBare
    { scheme := origin.scheme.text, authority := origin.authority, rest := [] } = true := by
  apply UriParts.isBare_iff.mpr
  refine ⟨rfl, ?_, origin.host, _, origin.splitHost_authority, (isHost_iff.mp origin.hosted).1,
    isPlainPort_portText origin.scheme origin.bounded⟩
  intro c member
  rcases List.mem_append.mp member with inScheme | inAuthority
  · have plain := List.all_eq_true.mp origin.scheme.text_plain c inScheme
    simp only [Bool.and_eq_true, Bool.not_eq_true', decide_eq_true_eq] at plain
    exact plain.1
  · obtain ⟨lower, userless, _⟩ := origin.authority_plain c inAuthority
    exact ⟨lower, userless⟩

/-- The texts of origins among the URIs with a web scheme. -/
theorem WebOrigin.exists_text_iff {text : List Char} {parts : UriParts} {scheme : WebScheme}
    (reads : UriParts.read text = some parts)
    (web : WebScheme.ofText (parts.scheme.map Char.toLower) = some scheme) :
    (∃ origin : WebOrigin, origin.text = text) ↔ parts.isBare = true := by
  obtain ⟨written, separated⟩ := UriParts.of_read reads
  constructor
  · intro ⟨origin, same⟩
    rw [← same, origin.parts_text] at reads
    cases reads
    exact origin.isBare_parts
  · intro bare
    obtain ⟨ends, plain, host, suffix, split, named, ported⟩ := UriParts.isBare_iff.mp bare
    obtain ⟨joined, closed⟩ := of_splitHost split
    have known : parts.scheme = scheme.text := by
      have lower := map_toLower_of_plain fun c member =>
        (plain c (List.mem_append_left _ member)).1
      rw [lower] at web
      exact WebScheme.eq_text_of_ofText web
    rw [known] at ported
    obtain ⟨port, bounded, same⟩ := exists_portText ported
    have hosted : isHost host = true := by
      refine isHost_iff.mpr ⟨named, ?_, ?_⟩
      · intro c member
        have inAuthority : c ∈ parts.authority := by
          rw [joined]
          exact List.mem_append_left _ member
        obtain ⟨lower, userless⟩ := plain c (List.mem_append_right _ inAuthority)
        exact ⟨lower, userless, separated.authority c inAuthority⟩
      · have alone := closed [] fun c first => by cases first
        rwa [List.append_nil] at alone
    refine ⟨{ scheme, host, port, hosted, bounded }, ?_⟩
    rw [← written, UriParts.text, ends, List.append_nil, joined, known, ← same]
    rfl

/-- A text that is the text of its own origin. -/
theorem WebOrigin.text_read_iff {text : List Char} {parts : UriParts} {scheme : WebScheme}
    (reads : UriParts.read text = some parts)
    (web : WebScheme.ofText (parts.scheme.map Char.toLower) = some scheme) :
    (∃ origin, WebOrigin.read text = some origin ∧ origin.text = text) ↔ parts.isBare = true := by
  rw [← WebOrigin.exists_text_iff reads web]
  constructor
  · intro ⟨origin, _, same⟩
    exact ⟨origin, same⟩
  · intro ⟨origin, same⟩
    refine ⟨origin, ?_, same⟩
    rw [← same]
    exact origin.read_text

end Library
