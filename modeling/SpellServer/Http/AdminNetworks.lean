import SpellServer.Http.Admission
import SpellServer.Http.Configuration
import SpellServer.Http.Forwarding
import SpellServer.Http.Totality

/-!
# The networks of dictionary administrators

The operator writes networks into two variables of the environment.  The gate in
front of the dictionaries admits the addresses of the one, and believes a
forwarded address from the other only.
-/

namespace SpellServer

open Library

/-! ## What is written -/

/-- The text of a list of networks, empty if the variable is not set. -/
def Environment.networksText (env : Environment) (name : String) : List Char :=
  match env name with
  | some (.unicode text) => text.toList
  | _ => []

/-- A network that is written in the variable holds the address. -/
def Environment.Lists (env : Environment) (name : String) (ip : IpAddr) : Prop :=
  ∃ field cidr, Fields.Written isWhiteSpace ',' (env.networksText name) field ∧
    Cidr.parse (.ofList field) = .ok cidr ∧ cidr.contains ip = true

/-- Nothing is written but blanks and commas. -/
def Environment.ListsNothing (env : Environment) (name : String) : Prop :=
  ∀ c ∈ env.networksText name, isWhiteSpace c = true ∨ c = ','

section

variable {env : Environment} {name : String} {cidrs : List Cidr}

/-- The networks of the configuration are the written ones. -/
theorem networks_of_gives (given : env.Gives name [] NetworksText cidrs) :
    List.Forall₂ (fun field cidr => Cidr.parse (.ofList field) = .ok cidr)
      (Fields.fields isWhiteSpace ',' (env.networksText name)) cidrs := by
  unfold Environment.Gives at given
  unfold Environment.networksText
  cases set : env name with
  | none =>
      rw [set] at given
      subst given
      exact .nil
  | some value =>
      rw [set] at given
      cases value with
      | unicode text => exact given
      | other bytes => cases given

theorem contains_iff_lists (given : env.Gives name [] NetworksText cidrs) (ip : IpAddr) :
    (∃ cidr ∈ cidrs, cidr.contains ip = true) ↔ env.Lists name ip := by
  have parsed := Results.mapM_eq_ok_iff.mpr (networks_of_gives given)
  unfold Environment.Lists
  simp only [Results.mem_of_mapM_iff parsed, Fields.mem_fields_iff]
  constructor
  · intro found
    obtain ⟨cidr, ⟨field, written, read⟩, contains⟩ := found
    exact ⟨field, cidr, written, read, contains⟩
  · intro listed
    obtain ⟨field, cidr, written, read, contains⟩ := listed
    exact ⟨cidr, ⟨field, written, read⟩, contains⟩

theorem eq_nil_iff_listsNothing (given : env.Gives name [] NetworksText cidrs) :
    cidrs = [] ↔ env.ListsNothing name := by
  have same_length := (networks_of_gives given).length_eq
  rw [← List.length_eq_zero_iff, ← same_length, List.length_eq_zero_iff]
  exact Fields.fields_eq_nil_iff

end

/-! ## Where a request comes from -/

/-- The address a request is seen under.  A trusted proxy forwards the addresses on
its way, the last one it has seen at the end. -/
inductive SeenUnder (env : Environment) (request : Request) : IpAddr → Prop where
  | direct (stranger : ¬env.Lists "RUSTSPELL_TRUSTED_PROXIES" (clientIp request.connectInfo)) :
      SeenUnder env request (clientIp request.connectInfo)
  | unforwarded
      (unread : (request.headers.get "x-forwarded-for").bind HeaderValue.toStr = none) :
      SeenUnder env request (clientIp request.connectInfo)
  | forwarded {text : String} {before after : List IpAddr} {ip : IpAddr}
      (proxy : env.Lists "RUSTSPELL_TRUSTED_PROXIES" (clientIp request.connectInfo))
      (line : (request.headers.get "x-forwarded-for").bind HeaderValue.toStr = some text)
      (chain : forwardedChain text = before ++ ip :: after)
      (stranger : ¬env.Lists "RUSTSPELL_TRUSTED_PROXIES" ip)
      (proxies : ∀ later ∈ after, env.Lists "RUSTSPELL_TRUSTED_PROXIES" later) :
      SeenUnder env request ip
  | proxiesOnly {text : String}
      (proxy : env.Lists "RUSTSPELL_TRUSTED_PROXIES" (clientIp request.connectInfo))
      (line : (request.headers.get "x-forwarded-for").bind HeaderValue.toStr = some text)
      (proxies : ∀ hop ∈ forwardedChain text, env.Lists "RUSTSPELL_TRUSTED_PROXIES" hop) :
      SeenUnder env request (clientIp request.connectInfo)

section

variable {env : Environment} {config : Config} {request : Request}

theorem trusts_iff_lists
    (given : env.Gives "RUSTSPELL_TRUSTED_PROXIES" [] NetworksText config.trustedProxies)
    (ip : IpAddr) :
    trusts config.trustedProxies ip = true ↔ env.Lists "RUSTSPELL_TRUSTED_PROXIES" ip := by
  rw [← contains_iff_lists given, trusts, List.any_eq_true]

theorem resolvedIp_of_stranger
    (stranger : trusts config.trustedProxies (clientIp request.connectInfo) = false) :
    request.resolvedIp config = clientIp request.connectInfo := by
  unfold trusts at stranger
  simp only [Request.resolvedIp, resolvedClientIp, stranger, Bool.not_false, Bool.or_true, if_true]

theorem resolvedIp_of_forwarded {text : String}
    (proxy : trusts config.trustedProxies (clientIp request.connectInfo) = true)
    (line : (request.headers.get "x-forwarded-for").bind HeaderValue.toStr = some text) :
    request.resolvedIp config =
      ((forwardedChain text).reverse.find? fun ip => !trusts config.trustedProxies ip).getD
        (clientIp request.connectInfo) := by
  obtain ⟨first, found, readable⟩ := Option.bind_eq_some_iff.mp line
  rw [get_forwarded] at found
  exact resolvedIp_of_line found readable rfl proxy

/-- A request is seen under one address, the one the gate resolves. -/
theorem seenUnder_iff
    (given : env.Gives "RUSTSPELL_TRUSTED_PROXIES" [] NetworksText config.trustedProxies)
    (ip : IpAddr) : SeenUnder env request ip ↔ request.resolvedIp config = ip := by
  have trusted := trusts_iff_lists given
  constructor
  · intro seen
    cases seen with
    | direct stranger =>
        rw [← trusted, Bool.not_eq_true] at stranger
        exact resolvedIp_of_stranger stranger
    | unforwarded unread => exact resolvedIp_of_unreadable unread
    | forwarded proxy line chain stranger proxies =>
        rw [← trusted] at proxy stranger
        rw [resolvedIp_of_forwarded proxy line, chain, List.reverse_append, List.reverse_cons,
          List.append_assoc, List.find?_append]
        have passed : (List.reverse _).find? (fun ip => !trusts config.trustedProxies ip) = none :=
          List.find?_eq_none.mpr fun later member => by
            simpa using (trusted later).mpr (proxies later (List.mem_reverse.mp member))
        simp [passed, stranger]
    | proxiesOnly proxy line proxies =>
        rw [← trusted] at proxy
        rw [resolvedIp_of_forwarded proxy line, List.find?_eq_none.mpr, Option.getD_none]
        intro hop member
        simpa using (trusted hop).mpr (proxies hop (List.mem_reverse.mp member))
  · intro resolved
    subst resolved
    cases proxy : trusts config.trustedProxies (clientIp request.connectInfo) with
    | false =>
        rw [resolvedIp_of_stranger proxy]
        apply SeenUnder.direct
        rw [← trusted, proxy]
        exact Bool.false_ne_true
    | true =>
        have listed := (trusted _).mp proxy
        cases line : (request.headers.get "x-forwarded-for").bind HeaderValue.toStr with
        | none =>
            rw [resolvedIp_of_unreadable line]
            exact .unforwarded line
        | some text =>
            rw [resolvedIp_of_forwarded proxy line]
            cases found : (forwardedChain text).reverse.find?
                fun ip => !trusts config.trustedProxies ip with
            | none =>
                apply SeenUnder.proxiesOnly listed line
                intro hop member
                have passed := List.find?_eq_none.mp found hop (List.mem_reverse.mpr member)
                exact (trusted hop).mp (by simpa using passed)
            | some ip =>
                obtain ⟨stranger, after, before, chain, proxies⟩ :=
                  List.find?_eq_some_iff_append.mp found
                have turned : forwardedChain text = before.reverse ++ ip :: after.reverse := by
                  rw [← List.reverse_reverse (forwardedChain text), chain]
                  simp
                apply SeenUnder.forwarded listed line turned
                · rw [← trusted]
                  simpa using stranger
                · intro later member
                  have passed := proxies later (List.mem_reverse.mp member)
                  exact (trusted later).mp (by simpa using passed)

end

/-! ## The gate -/

/-- The gate enforces what the operator has written: it admits platform keys from the
networks of the one variable, or from anywhere if it names none, and takes the
caller's address from a header only behind the networks of the other. -/
theorem admin_networks_enforced [Driver] {dataDir : Option OsString} {env : Environment}
    {config : LoadedConfig} {state : AppState} (loaded : load dataDir env = .ok config)
    (configured : state.config = config.toConfig) (hashKey : String → String) (ambient : Ambient)
    (request : Request) :
    (∃ later handled,
        RouteGroup.dictionaries.serve hashKey ambient state request = .next later handled) ↔
      ∃ record ip, presentedKey hashKey ambient state.store request = some record ∧
        record.role = .platform ∧ request.headers.containsKey "origin" = false ∧
        SeenUnder env request ip ∧ ¬state.rateLimiter.InCooldown ambient.checkedAt ip ∧
        (env.ListsNothing "RUSTSPELL_DICTIONARY_ADMIN_CIDRS" ∨
          env.Lists "RUSTSPELL_DICTIONARY_ADMIN_CIDRS" ip) := by
  have faithful := load_eq_ok_iff.mp loaded
  have proxies : env.Gives "RUSTSPELL_TRUSTED_PROXIES" [] NetworksText
      state.config.trustedProxies := by
    rw [configured]
    exact faithful.trustedProxies
  have admins : env.Gives "RUSTSPELL_DICTIONARY_ADMIN_CIDRS" [] NetworksText
      state.config.dictionaryAdminCidrs := by
    rw [configured]
    exact faithful.dictionaryAdmins
  constructor
  · intro served
    obtain ⟨later, handled, executed⟩ := served
    obtain ⟨record, entitled⟩ := served_entitled .dictionaries executed
    obtain ⟨platform, absent⟩ := entitled.platform (Or.inr rfl)
    refine ⟨record, request.resolvedIp state.config, entitled.presented, platform, absent,
      (seenUnder_iff proxies _).mpr rfl, entitled.cool, ?_⟩
    rw [← eq_nil_iff_listsNothing admins, ← contains_iff_lists admins]
    exact or_iff_not_imp_left.mpr (entitled.network rfl)
  · intro entitled
    obtain ⟨record, ip, presented, platform, absent, seen, cool, network⟩ := entitled
    obtain rfl := (seenUnder_iff proxies ip).mp seen
    rw [← eq_nil_iff_listsNothing admins, ← contains_iff_lists admins] at network
    obtain ⟨later, admits⟩ := requireDictionaryAdmin_admits cool presented platform absent
      (or_iff_not_imp_left.mp network)
    exact ⟨later, _, admits⟩

open scoped DefaultBackend

def sampleEnvironment : Environment := fun name =>
  if name = "RUSTSPELL_DICTIONARY_ADMIN_CIDRS" then some (.unicode "192.0.2.7, 10.0.0.0/8,")
  else if name = "RUSTSPELL_TRUSTED_PROXIES" then some (.unicode "127.0.0.0/8")
  else none

/-- The bootstrap key, from a network of the list and through a trusted proxy. -/
def forwardedRequest : Request :=
  .arriving
    (platformRequest.headers ++
      [("x-forwarded-for", .ofText "203.0.113.9, 10.1.2.3" (by decide))])
    (some (.v4 0x7f000001#32))

theorem admin_networks_enforced_forwarded :
    ∃ config world ip, load none sampleEnvironment = .ok config ∧
      World.Reachable sampleHash world ∧
      (RouteGroup.dictionaries.serve sampleHash sampleAmbient
        (.started world.store config.toConfig) forwardedRequest).isNext = true ∧
      SeenUnder sampleEnvironment forwardedRequest ip ∧ ip ≠ .v4 0x7f000001#32 ∧
      sampleEnvironment.Lists "RUSTSPELL_DICTIONARY_ADMIN_CIDRS" ip := by
  obtain ⟨world, run, outcome⟩ := World.exists_run sampleHash (fun _ _ => true)
    [.restart (sampleInput 0 0).now (sampleInput 0 0)]
    (fun world => (load none sampleEnvironment).toOption.any fun config =>
      (RouteGroup.dictionaries.serve sampleHash sampleAmbient
        (.started world.store config.toConfig) forwardedRequest).isNext &&
      decide (forwardedRequest.resolvedIp config.toConfig ≠ .v4 0x7f000001#32))
    (by decide +kernel)
  obtain ⟨config, loaded, executed, elsewhere⟩ : ∃ config, load none sampleEnvironment = .ok config ∧
      (RouteGroup.dictionaries.serve sampleHash sampleAmbient
        (.started world.store config.toConfig) forwardedRequest).isNext = true ∧
      forwardedRequest.resolvedIp config.toConfig ≠ .v4 0x7f000001#32 := by
    cases attempt : load none sampleEnvironment with
    | error error =>
        rw [attempt] at outcome
        cases outcome
    | ok config =>
        rw [attempt] at outcome
        exact ⟨config, rfl, by simpa [Except.toOption] using outcome⟩
  let state : AppState := .started world.store config.toConfig
  have configured : state.config = config.toConfig := rfl
  obtain ⟨_, ip, _, _, _, seen, _, network⟩ :=
    (admin_networks_enforced loaded configured sampleHash sampleAmbient forwardedRequest).mp
      (Verdict.isNext_iff.mp executed)
  have written : ¬sampleEnvironment.ListsNothing "RUSTSPELL_DICTIONARY_ADMIN_CIDRS" := by
    intro nothing
    have digit := nothing '1' (by decide)
    revert digit
    decide
  refine ⟨config, world, ip, loaded, ⟨_, run.weaken fun _ _ _ => trivial⟩, executed, seen, ?_,
    network.resolve_left written⟩
  intro direct
  have resolved := (seenUnder_iff (load_eq_ok_iff.mp loaded).trustedProxies ip).mp seen
  exact elsewhere (resolved.trans direct)

end SpellServer
