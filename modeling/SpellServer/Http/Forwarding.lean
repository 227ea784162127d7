import SpellServer.Http.Gates

/-!
# Forwarded addresses

The hops of a request are the entries of all its `X-Forwarded-For` lines.  The
walk of `resolved_client_ip` reads the first line only, and passes over entries
that are not an address.
-/

namespace SpellServer

/-! ## Hops -/

/-- The value's bytes as characters, readable by `to_str` or not. -/
def HeaderValue.chars (value : HeaderValue) : List Char :=
  value.bytes.map fun byte => Char.ofNat byte.toNat

def HeaderValue.hops (value : HeaderValue) : List (List Char) :=
  ((value.chars.splitOn ',').map trim).filter (· ≠ [])

namespace Request

def forwardedLines (request : Request) : List HeaderValue :=
  (request.headers.filter fun header => header.1 = "x-forwarded-for").map Prod.snd

def hops (request : Request) : List (List Char) := request.forwardedLines.flatMap HeaderValue.hops

end Request

/-- Some network of the list holds the address. -/
def trusts (trustedProxies : List Cidr) (ip : IpAddr) : Bool :=
  trustedProxies.any fun cidr => cidr.contains ip

/-- An entry that is no address is not trusted. -/
def hopTrusted (trustedProxies : List Cidr) (hop : List Char) : Bool :=
  (IpAddr.parse hop).any (trusts trustedProxies)

/-- The request's rightmost untrusted hop, with the hops behind it. -/
def RightmostUntrusted (trustedProxies : List Cidr) (request : Request) (hop : List Char)
    (right : List (List Char)) : Prop :=
  (∃ left, request.hops = left ++ hop :: right) ∧ hopTrusted trustedProxies hop = false ∧
    ∀ later ∈ right, hopTrusted trustedProxies later = true

/-- Requests that agree on the peer, the hop and what is behind it are seen
under one address. -/
def SteadyAddress (config : Config) (peer : IpAddr) (hop : List Char) (right : List (List Char)) :
    Prop :=
  ∀ one two : Request, clientIp one.connectInfo = peer → clientIp two.connectInfo = peer →
    RightmostUntrusted config.trustedProxies one hop right →
    RightmostUntrusted config.trustedProxies two hop right →
    one.resolvedIp config = two.resolvedIp config

/-- Every address that a line can name is trusted. -/
def TrustsEveryHop (trustedProxies : List Cidr) : Prop :=
  ∀ (line : HeaderValue) (text : String), line.toStr = some text →
    ∀ ip ∈ forwardedChain text, trusts trustedProxies ip = true

/-- The hop is an address in the first line, and that line is readable. -/
def InFirstLine (request : Request) (hop : List Char) (right : List (List Char)) : Prop :=
  ∃ first rest before after, request.forwardedLines = first :: rest ∧
    first.toStr.isSome = true ∧ first.hops = before ++ hop :: after ∧
    right = after ++ rest.flatMap HeaderValue.hops ∧ (IpAddr.parse hop).isSome = true

/-! ## The walk -/

theorem IpAddr.canonicalIp_canonicalIp (ip : IpAddr) :
    ip.canonicalIp.canonicalIp = ip.canonicalIp := by
  cases ip with
  | v4 bits => rfl
  | v6 bits =>
      unfold canonicalIp
      cases mapped : toIpv4Mapped bits with
      | none => simp only [mapped]
      | some inner => simp only [mapped]

theorem trusts_canonicalIp (trustedProxies : List Cidr) (ip : IpAddr) :
    trusts trustedProxies ip.canonicalIp = trusts trustedProxies ip := by
  unfold trusts
  congr 1
  funext cidr
  unfold Cidr.contains
  rw [IpAddr.canonicalIp_canonicalIp]

/-- The address that a hop names. -/
def hopAddress (hop : List Char) : Option IpAddr := (IpAddr.parse hop).map IpAddr.canonicalIp

theorem hopTrusted_eq {trustedProxies : List Cidr} {hop : List Char} {ip : IpAddr}
    (named : hopAddress hop = some ip) : hopTrusted trustedProxies hop = trusts trustedProxies ip := by
  obtain ⟨written, parsed, rfl⟩ := Option.map_eq_some_iff.mp named
  rw [hopTrusted, parsed, Option.any_some, trusts_canonicalIp]

theorem forwardedChain_eq {line : HeaderValue} {text : String} (readable : line.toStr = some text) :
    forwardedChain text = line.hops.filterMap hopAddress := by
  have chars : text.toList = line.chars := by
    unfold HeaderValue.toStr at readable
    split at readable
    · cases readable
      exact String.toList_ofList
    · cases readable
  unfold forwardedChain HeaderValue.hops
  rw [chars, List.filterMap_filter, List.filterMap_map]
  apply List.filterMap_congr
  intro entry _
  by_cases empty : trim entry = [] <;> simp [empty, hopAddress]

theorem get_forwarded (request : Request) :
    request.headers.get "x-forwarded-for" = request.forwardedLines.head? := by
  unfold HeaderMap.get Request.forwardedLines
  rw [List.head?_map, List.head?_filter]

section

variable {config : Config} {request : Request} {peer : IpAddr}

/-- The walk takes the rightmost untrusted address of the first line. -/
theorem resolvedIp_of_line {first : HeaderValue} {text : String}
    (line : request.forwardedLines.head? = some first) (readable : first.toStr = some text)
    (direct : clientIp request.connectInfo = peer)
    (trusted : trusts config.trustedProxies peer = true) :
    request.resolvedIp config =
      ((forwardedChain text).reverse.find? fun ip => !trusts config.trustedProxies ip).getD peer := by
  have given : config.trustedProxies.isEmpty = false := by
    cases proxies : config.trustedProxies with
    | nil =>
        rw [proxies] at trusted
        cases trusted
    | cons => rfl
  have read : (request.headers.get "x-forwarded-for").bind HeaderValue.toStr = some text := by
    rw [get_forwarded, line, Option.bind_some, readable]
  unfold trusts at trusted
  simp only [Request.resolvedIp, resolvedClientIp, read, direct, given, trusted, trusts]
  rfl

theorem resolvedIp_of_unreadable
    (unread : (request.headers.get "x-forwarded-for").bind HeaderValue.toStr = none) :
    request.resolvedIp config = clientIp request.connectInfo := by
  unfold Request.resolvedIp resolvedClientIp
  rw [unread]
  exact ite_self _

/-- A hop in the first line is seen under its own address. -/
theorem resolvedIp_of_inFirstLine {hop : List Char} {right : List (List Char)}
    (direct : clientIp request.connectInfo = peer)
    (trusted : trusts config.trustedProxies peer = true)
    (rightmost : RightmostUntrusted config.trustedProxies request hop right)
    (first_line : InFirstLine request hop right) :
    hopAddress hop = some (request.resolvedIp config) := by
  obtain ⟨_, untrusted, behind⟩ := rightmost
  obtain ⟨first, rest, before, after, lines, readable, hops, parts, bare⟩ := first_line
  obtain ⟨text, read⟩ := Option.isSome_iff_exists.mp readable
  obtain ⟨written, parsed⟩ := Option.isSome_iff_exists.mp bare
  have named : hopAddress hop = some written.canonicalIp := by rw [hopAddress, parsed, Option.map_some]
  have chain : forwardedChain text =
      before.filterMap hopAddress ++ written.canonicalIp :: after.filterMap hopAddress := by
    rw [forwardedChain_eq read, hops, List.filterMap_append, List.filterMap_cons_some named]
  have passed : (after.filterMap hopAddress).reverse.find?
      (fun ip => !trusts config.trustedProxies ip) = none := by
    apply List.find?_eq_none.mpr
    intro ip member
    obtain ⟨later, among, address⟩ := List.mem_filterMap.mp (List.mem_reverse.mp member)
    have inRight : later ∈ right := by
      rw [parts]
      exact List.mem_append_left _ among
    rw [← hopTrusted_eq address, behind later inRight]
    decide
  have stops : (!trusts config.trustedProxies written.canonicalIp) = true := by
    rw [← hopTrusted_eq named, untrusted]
    rfl
  have head : request.forwardedLines.head? = some first := by rw [lines, List.head?_cons]
  rw [named, resolvedIp_of_line head read direct trusted, chain, List.reverse_append,
    List.reverse_cons, List.append_assoc, List.find?_append, passed, Option.none_or,
    List.singleton_append,
    List.find?_cons_of_pos (p := fun ip => !trusts config.trustedProxies ip) stops,
    Option.getD_some]

/-- Where no line can name an untrusted address, the peer is used. -/
theorem resolvedIp_of_trustsEveryHop (every : TrustsEveryHop config.trustedProxies)
    (direct : clientIp request.connectInfo = peer)
    (trusted : trusts config.trustedProxies peer = true) : request.resolvedIp config = peer := by
  cases read : (request.headers.get "x-forwarded-for").bind HeaderValue.toStr with
  | none => exact (resolvedIp_of_unreadable read).trans direct
  | some text =>
      obtain ⟨first, line, readable⟩ := Option.bind_eq_some_iff.mp read
      rw [get_forwarded] at line
      rw [resolvedIp_of_line line readable direct trusted, List.find?_eq_none.mpr, Option.getD_none]
      intro ip member
      rw [every first text readable ip (List.mem_reverse.mp member)]
      decide

end

/-! ## Lines in front -/

namespace Request

/-- The request with one more line in front of the others. -/
def prependForwarded (request : Request) (line : HeaderValue) : Request :=
  { request with headers := ("x-forwarded-for", line) :: request.headers }

theorem prependForwarded_lines (request : Request) (line : HeaderValue) :
    (request.prependForwarded line).forwardedLines = line :: request.forwardedLines := by
  simp [prependForwarded, forwardedLines]

end Request

theorem RightmostUntrusted.prepend {trustedProxies : List Cidr} {request : Request}
    {hop : List Char} {right : List (List Char)}
    (rightmost : RightmostUntrusted trustedProxies request hop right) (line : HeaderValue) :
    RightmostUntrusted trustedProxies (request.prependForwarded line) hop right := by
  obtain ⟨⟨left, parts⟩, untrusted, behind⟩ := rightmost
  refine ⟨⟨line.hops ++ left, ?_⟩, untrusted, behind⟩
  rw [Request.hops, Request.prependForwarded_lines, List.flatMap_cons, List.append_assoc]
  exact congrArg (line.hops ++ ·) parts

def emptyLine : HeaderValue := { bytes := [], valid := by simp }

/-- A line in front of the others moves the walk onto itself. -/
theorem trustsEveryHop_of_steady {config : Config} {request : Request} {peer : IpAddr}
    {hop : List Char} {right : List (List Char)}
    (direct : clientIp request.connectInfo = peer)
    (trusted : trusts config.trustedProxies peer = true)
    (rightmost : RightmostUntrusted config.trustedProxies request hop right)
    (steady : SteadyAddress config peer hop right) : TrustsEveryHop config.trustedProxies := by
  intro line text readable
  by_contra untrusted_hop
  have named : ∃ ip ∈ forwardedChain text, trusts config.trustedProxies ip = false := by
    simpa using untrusted_hop
  have same := steady (request.prependForwarded line) (request.prependForwarded emptyLine) direct
    direct (rightmost.prepend line) (rightmost.prepend emptyLine)
  have lineHead : (request.prependForwarded line).forwardedLines.head? = some line := by
    rw [Request.prependForwarded_lines, List.head?_cons]
  have emptyHead : (request.prependForwarded emptyLine).forwardedLines.head? = some emptyLine := by
    rw [Request.prependForwarded_lines, List.head?_cons]
  have nothing : emptyLine.toStr = some "" := by decide
  have onEmpty : (request.prependForwarded emptyLine).resolvedIp config = peer := by
    rw [resolvedIp_of_line emptyHead nothing direct trusted]
    rfl
  rw [onEmpty, resolvedIp_of_line lineHead readable direct trusted] at same
  cases found : (forwardedChain text).reverse.find? fun ip => !trusts config.trustedProxies ip with
  | none =>
      obtain ⟨ip, member, untrusted⟩ := named
      have passed := List.find?_eq_none.mp found ip (List.mem_reverse.mpr member)
      rw [untrusted] at passed
      exact passed rfl
  | some ip =>
      have untrusted := List.find?_some found
      rw [found, Option.getD_some] at same
      rw [same, trusted] at untrusted
      cases untrusted

theorem forwarded_address_steady (config : Config) (peer : IpAddr)
    (trusted : trusts config.trustedProxies peer = true) (hop : List Char)
    (right : List (List Char)) :
    (∀ one two : Request, clientIp one.connectInfo = peer → clientIp two.connectInfo = peer →
      RightmostUntrusted config.trustedProxies one hop right →
      RightmostUntrusted config.trustedProxies two hop right →
      InFirstLine one hop right → InFirstLine two hop right →
        one.resolvedIp config = two.resolvedIp config) ∧
    ∀ request : Request, clientIp request.connectInfo = peer →
      RightmostUntrusted config.trustedProxies request hop right →
        (SteadyAddress config peer hop right ↔ TrustsEveryHop config.trustedProxies) := by
  constructor
  · intro one two directOne directTwo rightmostOne rightmostTwo firstOne firstTwo
    have addressOne := resolvedIp_of_inFirstLine directOne trusted rightmostOne firstOne
    have addressTwo := resolvedIp_of_inFirstLine directTwo trusted rightmostTwo firstTwo
    exact Option.some.inj (addressOne.symm.trans addressTwo)
  · intro request direct rightmost
    constructor
    · exact trustsEveryHop_of_steady direct trusted rightmost
    · intro every one two directOne directTwo _ _
      rw [resolvedIp_of_trustsEveryHop every directOne trusted,
        resolvedIp_of_trustsEveryHop every directTwo trusted]

/-- Proxies in `10.0.0.0/8`. -/
def innerProxies : Config :=
  { dictionaryAdminCidrs := []
    trustedProxies :=
      [{ network := .v4 0x0a000000#32, prefixLength := 8, bounded := by decide, masked := by decide }] }

def forwardedBy (text : String)
    (printable : text.toList.all (fun char => 32 ≤ char.toNat && char.toNat < 127) = true) : Request :=
  Request.arriving [("x-forwarded-for", .ofText text printable)] (some (.v4 0x0a000001#32))

/-- A bare address, with and without an entry before it. -/
theorem forwarded_address_of_bare_hop :
    (forwardedBy "198.51.100.7, 203.0.113.9" (by decide)).resolvedIp innerProxies =
      (forwardedBy "203.0.113.9" (by decide)).resolvedIp innerProxies :=
  (forwarded_address_steady innerProxies (.v4 0x0a000001#32) (by decide) "203.0.113.9".toList
    []).1 _ _ rfl rfl
    ⟨⟨["198.51.100.7".toList], by decide +kernel⟩, by decide +kernel, by simp⟩
    ⟨⟨[], by decide +kernel⟩, by decide +kernel, by simp⟩
    ⟨_, [], ["198.51.100.7".toList], [], rfl, by decide +kernel, by decide +kernel, rfl,
      by decide +kernel⟩
    ⟨_, [], [], [], rfl, by decide +kernel, by decide +kernel, rfl, by decide +kernel⟩

/-- An address with a port is passed over, and the entry before it is taken. -/
theorem port_exposes_forged_entry : ¬∀ (config : Config) (peer : IpAddr) (hop : List Char)
    (right : List (List Char)), trusts config.trustedProxies peer = true →
      SteadyAddress config peer hop right := by
  intro claim
  have same := claim innerProxies (.v4 0x0a000001#32) "203.0.113.9:51000".toList [] (by decide)
    (forwardedBy "203.0.113.9:51000" (by decide))
    (forwardedBy "198.51.100.7, 203.0.113.9:51000" (by decide)) rfl rfl
    ⟨⟨[], by decide +kernel⟩, by decide +kernel, by simp⟩
    ⟨⟨["198.51.100.7".toList], by decide +kernel⟩, by decide +kernel, by simp⟩
  revert same
  decide +kernel

end SpellServer
