/-
# SensorGateway.Proofs.Gateway.Serving -- usable settings are served in full

Settings are accepted exactly when every server has a URL that is not blank, no two servers
come out with the same id, wherever the ids are from, and channels have room
(`Config.validate_eq_ok_iff`). A gateway made from such settings lists and finds every server
under its id and has one adapter for each family of objects of each server, none of which took
the place of another (`Gateway.Serves`). `Gateway.serves_of_validate` puts the two together.
What a server is known as is `Config.Server.IsKnownAs`; two servers are not known as the same
(`Config.Usable.eq_of_isKnownAs`), and each is found as what it is known as
(`Gateway.Serves.found_of_isKnownAs`). What is shown of routes rests on the ids being apart: two
servers with one id would get the later one's adapters for a family that both have.
-/
import Mathlib.Data.List.Dedup
import SensorGateway.Config.Loading
import SensorGateway.Proofs.Adapter.History
import SensorGateway.Proofs.Config.Identity
import SensorGateway.Proofs.Gateway.Assembly
import SensorGateway.Proofs.General.Lists

namespace SensorGateway

/-! ## Usable settings -/

namespace Config

/-- Settings that a gateway can be made from. -/
structure Usable (c : Config) : Prop where
  /-- Every server has a URL with something other than white space in it. -/
  located : ∀ s ∈ c.servers, ∃ ch ∈ s.url.toList, Text.isBlank ch = false
  /-- No two servers have the same id, whether given or made from the URL. -/
  distinct : (c.servers.map Server.serverId).Nodup
  room : 0 < c.sessions.channelCapacity

/-- No two servers of usable settings are known as the same. -/
theorem Usable.eq_of_isKnownAs {c : Config} (h : c.Usable) {s s' : Server} (hs : s ∈ c.servers)
    (hs' : s' ∈ c.servers) {id : ServerId} (hid : s.IsKnownAs id) (hid' : s'.IsKnownAs id) :
    s = s' := by
  apply List.inj_on_of_nodup_map h.distinct hs hs'
  rw [Server.isKnownAs_iff.mp hid, Server.isKnownAs_iff.mp hid']

/-- The check of servers goes through exactly when all have a URL and an id that neither an earlier
one nor another of them has. -/
theorem checkServers_eq_ok_iff {index : Nat} {seen : List ServerId} {ss : List Server} :
    checkServers index seen ss = .ok () ↔
      (∀ s ∈ ss, Text.isBlankText s.url = false) ∧ (ss.map Server.serverId).Nodup ∧
        ∀ s ∈ ss, s.serverId ∉ seen := by
  induction ss generalizing index seen with
  | nil => simp [checkServers]
  | cons s rest ih =>
    unfold checkServers
    split
    · next hblank => simp [hblank]
    · next hblank =>
      have hblank : Text.isBlankText s.url = false := by simpa using hblank
      split
      · next hseen =>
        have hseen : s.serverId ∈ seen := by simpa using hseen
        simp [hseen]
      · next hseen =>
        have hseen : s.serverId ∉ seen := by simpa using hseen
        rw [ih, List.forall_mem_cons, List.forall_mem_cons, List.map_cons, List.nodup_cons]
        -- an id is apart from those before it and from the first one, or it is seen
        simp only [List.mem_cons, List.mem_map, not_or, not_exists, not_and]
        constructor
        · rintro ⟨hurls, hnodup, hapart⟩
          exact ⟨⟨hblank, hurls⟩, ⟨fun s' hs' => (hapart s' hs').1, hnodup⟩, hseen,
            fun s' hs' => (hapart s' hs').2⟩
        · rintro ⟨⟨-, hurls⟩, ⟨hfirst, hnodup⟩, -, hapart⟩
          exact ⟨hurls, hnodup, fun s' hs' => ⟨hfirst s' hs', hapart s' hs'⟩⟩

/-- Settings are accepted exactly when they are usable. -/
theorem validate_eq_ok_iff (c : Config) : c.validate = .ok () ↔ c.Usable := by
  have hservers : checkServers 0 [] c.servers = .ok () ↔
      (∀ s ∈ c.servers, ∃ ch ∈ s.url.toList, Text.isBlank ch = false) ∧
        (c.servers.map Server.serverId).Nodup := by
    rw [checkServers_eq_ok_iff]
    simp only [Text.isBlankText_eq_false_iff, List.not_mem_nil, not_false_eq_true, implies_true,
      and_true]
  have hvalidate : c.validate = .ok () ↔
      checkServers 0 [] c.servers = .ok () ∧ c.sessions.channelCapacity ≠ 0 := by
    unfold validate
    cases checkServers 0 [] c.servers with
    | error e => exact ⟨nofun, fun h => nomatch h.1⟩
    | ok u =>
      by_cases hzero : c.sessions.channelCapacity = 0
      · simp only [hzero, if_true]
        exact ⟨nofun, fun h => absurd rfl h.2⟩
      · simp only [hzero, if_false]
        exact ⟨fun _ => ⟨trivial, hzero⟩, fun _ => rfl⟩
  rw [hvalidate, hservers, ← UInt64.pos_iff_ne_zero]
  constructor
  · rintro ⟨⟨hurls, hids⟩, hroom⟩
    exact ⟨hurls, hids, hroom⟩
  · intro h
    exact ⟨⟨h.located, h.distinct⟩, h.room⟩

/-- The families of the objects in memory with their servers, once for each object. -/
def loopbackRoutes (servers : List Server) : List Route :=
  servers.flatMap fun s => s.loopback.map fun o => ⟨s.serverId, o.protocol⟩

end Config

/-! ## The servers that are listed -/

namespace Registry

/-- What a server of the settings is listed as once its objects in memory are there. -/
def served (s : Config.Server) : Server := { serverOf s with connected := !s.loopback.isEmpty }

/-- A server is listed as connected when it has objects in memory, and else as it was. -/
theorem served_eq (s : Config.Server) :
    served s = if s.loopback = [] then serverOf s else checked true none (serverOf s) := by
  cases h : s.loopback with
  | nil => simp only [served, h, List.isEmpty_nil, Bool.not_true]; rfl
  | cons o rest => simp only [served, h, List.isEmpty_cons, Bool.not_false]; rfl

theorem setFirst_append_cons {id : ServerId} {f : Server → Server} {before after : List Server}
    {s : Server} (hbefore : ∀ x ∈ before, x.id ≠ id) (hs : s.id = id) :
    setFirst id f (before ++ s :: after) = before ++ f s :: after := by
  induction before with
  | nil => exact if_pos hs
  | cons x rest ih =>
    have hrest := ih fun y hy => hbefore y (List.mem_cons_of_mem x hy)
    show (if x.id = id then _ else x :: setFirst id f (rest ++ s :: after)) = _
    rw [if_neg (hbefore x (List.mem_cons_self ..)), hrest]
    rfl

/-- The first server behind those that are done becomes connected. -/
theorem setConnected_next {done rest : List Config.Server} {s : Config.Server}
    (hs : s.serverId ∉ done.map Config.Server.serverId) :
    (setConnected ⟨done.map served ++ (s :: rest).map serverOf⟩ s.serverId true none).1 =
      ⟨done.map served ++ checked true none (serverOf s) :: rest.map serverOf⟩ := by
  refine congrArg Registry.mk (setFirst_append_cons ?_ rfl)
  intro x hx he
  obtain ⟨s', hs', rfl⟩ := List.mem_map.mp hx
  exact hs (List.mem_map.mpr ⟨s', hs', he⟩)

/-- A server is found under its id where ids are apart. -/
theorem get?_served {servers : List Config.Server}
    (hids : (servers.map Config.Server.serverId).Nodup) {s : Config.Server} (hs : s ∈ servers) :
    get? ⟨servers.map served⟩ s.serverId = some (served s) := by
  unfold get?
  rw [List.find?_map]
  cases hfind : servers.find? ((fun x => decide (x.id = s.serverId)) ∘ served) with
  | none => exact absurd (decide_eq_true rfl) (List.find?_eq_none.mp hfind s hs)
  | some s' =>
    have hid : (served s').id = s.serverId := by simpa using List.find?_some hfind
    replace hid : s'.serverId = s.serverId := hid
    rw [List.inj_on_of_nodup_map hids (List.mem_of_find?_eq_some hfind) hs hid]
    rfl

end Registry

/-! ## The adapters that are installed -/

/-- The family of a server that an adapter is to serve. -/
def Installation.route (i : Installation) : Route := ⟨i.server, i.adapter.protocol⟩

namespace Gateway

/-- The adapters for the objects in memory of one server. -/
def memoryInstallations (s : Config.Server) : List Installation :=
  (loopbackFamilies s).map (memoryInstallation s)

/-- The adapters of a gateway are those that were installed, in their order, and each serves the
route that it was installed for. -/
structure Installed (g : Gateway) (is : List Installation) : Prop where
  adapters : g.adapters = is.map (·.adapter)
  routes : ∀ r n, g.routes.get? r = some n ↔ (is.map Installation.route)[n]? = some r

variable {g : Gateway} {is js : List Installation}

/-- An adapter for a route that nobody serves yet takes nobody's place. -/
theorem Installed.install (h : Installed g is) {i : Installation}
    (hi : i.route ∉ is.map Installation.route) : Installed (g.install i) (is ++ [i]) := by
  rw [install_eq]
  refine ⟨by rw [h.adapters, List.map_append]; rfl, ?_⟩
  intro r n
  have hlength : g.adapters.length = (is.map Installation.route).length := by
    rw [h.adapters, List.length_map, List.length_map]
  rw [SortedMap.get?_insert, List.map_append, List.map_singleton,
    General.getElem?_concat_eq_some_iff, ← hlength, ← h.routes]
  show (if r = i.route then _ else _) = _ ↔ _
  by_cases hr : r = i.route
  · subst hr
    rw [if_pos rfl]
    constructor
    · intro hn
      exact Or.inr ⟨(Option.some.inj hn).symm, rfl⟩
    · rintro (hn | ⟨hn, -⟩)
      · exact absurd (List.mem_of_getElem? ((h.routes _ _).mp hn)) hi
      · rw [hn]
  · rw [if_neg hr]
    exact ⟨Or.inl, fun hn => hn.resolve_right fun hlast => hr hlast.2.symm⟩

theorem Installed.foldl_install (h : Installed g is)
    (hroutes : ((is ++ js).map Installation.route).Nodup) :
    Installed (js.foldl Gateway.install g) (is ++ js) := by
  induction js generalizing g is with
  | nil => simpa using h
  | cons i rest ih =>
    have hi : i.route ∉ is.map Installation.route := by
      rw [List.map_append, List.map_cons] at hroutes
      exact fun hmem => (List.nodup_append.mp hroutes).2.2 _ hmem _ (List.mem_cons_self ..) rfl
    have hnext := ih (h.install hi) (by simpa using hroutes)
    rwa [List.append_assoc] at hnext

theorem registry_foldl_install (l : List Installation) (g : Gateway) :
    (l.foldl Gateway.install g).registry = g.registry := by
  induction l generalizing g with
  | nil => rfl
  | cons i rest ih => rw [List.foldl_cons, ih, install_eq]

/-! ## One server after the other -/

theorem loopbackFamilies_eq_nil_iff (s : Config.Server) :
    loopbackFamilies s = [] ↔ s.loopback = [] := by
  rw [List.eq_nil_iff_forall_not_mem, List.eq_nil_iff_forall_not_mem]
  simp only [loopbackFamilies, ← SortedSet.mem_def, SortedSet.mem_ofList, List.mem_map]
  constructor
  · intro h o ho
    exact h o.protocol ⟨o, ho, rfl⟩
  · rintro h p ⟨o, ho, -⟩
    exact h o ho

/-- A server gets its adapters, and is noted as connected if it has objects in memory. -/
theorem registerServer_eq (g : Gateway) (s : Config.Server) :
    g.registerServer s =
      ({ (memoryInstallations s).foldl Gateway.install g with
          registry := if s.loopback = [] then g.registry
            else (g.registry.setConnected s.serverId true none).1 },
        (memoryInstallations s).length) := by
  unfold registerServer
  split
  · next hfamilies =>
    have hnone : memoryInstallations s = [] := by rw [memoryInstallations, hfamilies]; rfl
    rw [hnone, if_pos ((loopbackFamilies_eq_nil_iff s).mp hfamilies)]
    rfl
  · next hfamilies =>
    have hregistry := registry_foldl_install (memoryInstallations s) g
    rw [if_neg fun h => hfamilies ((loopbackFamilies_eq_nil_iff s).mpr h)]
    unfold memoryInstallations at hregistry ⊢
    rw [List.foldl_map] at hregistry ⊢
    rw [List.length_map, ← hregistry]
    rfl

theorem Installed.of_same {g g' : Gateway} (h : Installed g is)
    (hadapters : g'.adapters = g.adapters) (hroutes : g'.routes = g.routes) : Installed g' is :=
  ⟨hadapters.trans h.adapters, fun r n => hroutes ▸ h.routes r n⟩

/-- The adapters of all servers are installed, if their routes are apart. -/
theorem Installed.registerLoopback (h : Installed g is) (servers : List Config.Server)
    (hroutes : ((is ++ servers.flatMap memoryInstallations).map Installation.route).Nodup) :
    Installed (g.registerLoopback servers).1 (is ++ servers.flatMap memoryInstallations) ∧
      (g.registerLoopback servers).2 = (servers.flatMap memoryInstallations).length := by
  induction servers generalizing g is with
  | nil =>
    rw [List.flatMap_nil, List.append_nil]
    exact ⟨h, rfl⟩
  | cons s rest ih =>
    rw [List.flatMap_cons, ← List.append_assoc] at hroutes ⊢
    have hserver : Installed (g.registerServer s).1 (is ++ memoryInstallations s) := by
      rw [List.map_append] at hroutes
      rw [registerServer_eq]
      exact (h.foldl_install hroutes.of_append_left).of_same rfl rfl
    obtain ⟨hinstalled, hcount⟩ := ih hserver hroutes
    have hown : (g.registerServer s).2 = (memoryInstallations s).length :=
      congrArg Prod.snd (registerServer_eq g s)
    refine ⟨hinstalled, ?_⟩
    rw [List.length_append, ← hcount, ← hown]
    rfl

/-- All servers are listed in their order. -/
theorem servers_registerLoopback {rest done : List Config.Server} {g : Gateway}
    (hids : ((done ++ rest).map Config.Server.serverId).Nodup)
    (hg : g.registry = ⟨done.map Registry.served ++ rest.map Registry.serverOf⟩) :
    (g.registerLoopback rest).1.registry = ⟨(done ++ rest).map Registry.served⟩ := by
  -- by induction on the servers that are left, with those that are done in front of them
  induction rest generalizing done g with
  | nil =>
    rw [List.append_nil]
    rwa [List.map_nil, List.append_nil] at hg
  | cons s rest ih =>
    have hs : s.serverId ∉ done.map Config.Server.serverId := by
      rw [List.map_append, List.map_cons] at hids
      exact fun hmem => (List.nodup_append.mp hids).2.2 _ hmem _ (List.mem_cons_self ..) rfl
    have hnext : (g.registerServer s).1.registry =
        ⟨(done ++ [s]).map Registry.served ++ rest.map Registry.serverOf⟩ := by
      rw [registerServer_eq, hg]
      show (if s.loopback = [] then _ else _) = _
      rw [Registry.setConnected_next hs, List.map_append, List.append_assoc, List.map_singleton,
        Registry.served_eq]
      split <;> rfl
    have hids' : ((done ++ [s] ++ rest).map Config.Server.serverId).Nodup := by simpa using hids
    have hrest := ih hids' hnext
    rwa [List.append_assoc] at hrest

/-! ## Settings served in full -/

theorem mem_routes_iff {servers : List Config.Server} {r : Route} :
    r ∈ (servers.flatMap memoryInstallations).map Installation.route ↔
      r ∈ Config.loopbackRoutes servers := by
  simp only [Config.loopbackRoutes, memoryInstallations, loopbackFamilies, List.mem_map,
    List.mem_flatMap, ← SortedSet.mem_def, SortedSet.mem_ofList]
  constructor
  · rintro ⟨i, ⟨s, hs, p, ⟨o, ho, rfl⟩, rfl⟩, rfl⟩
    exact ⟨s, hs, o, ho, rfl⟩
  · rintro ⟨s, hs, o, ho, rfl⟩
    exact ⟨_, ⟨s, hs, o.protocol, ⟨o, ho, rfl⟩, rfl⟩, rfl⟩

/-- Where ids are apart, so are the routes of all servers. -/
theorem nodup_routes {servers : List Config.Server}
    (hids : (servers.map Config.Server.serverId).Nodup) :
    ((servers.flatMap memoryInstallations).map Installation.route).Nodup := by
  rw [List.map_flatMap, List.nodup_flatMap]
  constructor
  · -- one server has each family once
    intro s _
    have hfamilies : (loopbackFamilies s).Nodup :=
      (SortedSet.increasing _).imp SortedMap.ne_of_compare_lt
    rw [memoryInstallations, List.map_map]
    exact hfamilies.map fun p p' h => congrArg Route.protocol h
  · -- two servers differ by their ids
    refine (List.pairwise_map.mp hids).imp ?_
    intro s s' hne r hr hr'
    obtain ⟨i, hi, rfl⟩ := List.mem_map.mp hr
    obtain ⟨i', hi', heq⟩ := List.mem_map.mp hr'
    obtain ⟨p, -, rfl⟩ := List.mem_map.mp hi
    obtain ⟨p', -, rfl⟩ := List.mem_map.mp hi'
    exact hne (congrArg Route.server heq).symm

/-- An adapter for objects in memory has the objects of its family. -/
theorem mem_objectNames_iff (server : ServerId) (p : Protocol)
    (objects : List Config.LoopbackObject) (o : String) :
    o ∈ (Adapter.Loopback.ofConfig server p objects).objectNames ↔
      ∃ c ∈ objects, c.protocol = p ∧ c.name = o := by
  rw [Adapter.Loopback.objectNames, SortedMap.mem_keys_iff, Adapter.get?_ofConfig,
    Option.isSome_map, Adapter.configured?, Option.isSome_map, List.getLast?_isSome]
  simp [List.filter_eq_nil_iff]

/-- A gateway lists some servers and has an adapter for each family of their objects in memory; `n`
is the number of adapters that was reported. -/
structure Serves (servers : List Config.Server) (g : Gateway) (n : Nat) : Prop where
  /-- The servers are listed in their order, connected if they have objects in memory. -/
  listed : g.registry.servers = servers.map fun s =>
    ⟨s.serverId, s.url, s.displayName, !s.loopback.isEmpty, none⟩
  /-- Each is found under its id. -/
  found : ∀ s ∈ servers, g.registry.get? s.serverId =
    some ⟨s.serverId, s.url, s.displayName, !s.loopback.isEmpty, none⟩
  /-- There are as many adapters as families of objects with their servers, each counted once. -/
  count : n = (Config.loopbackRoutes servers).dedup.length ∧ g.adapters.length = n
  /-- The families of objects are served, and nothing else. -/
  routed : ∀ r, (∃ number, g.routes.get? r = some number) ↔ r ∈ Config.loopbackRoutes servers
  /-- Each adapter serves one of them; none was replaced. -/
  own : ∀ number < n, ∃ r, g.routes.get? r = some number ∧
    ∀ r', g.routes.get? r' = some number → r' = r
  /-- It has the objects that its server has in its family. -/
  objects : ∀ s ∈ servers, ∀ p number, g.routes.get? ⟨s.serverId, p⟩ = some number →
    ∃ l, g.adapters[number]? = some (.loopback l) ∧ l.server = s.serverId ∧ l.protocol = p ∧
      ∀ o, o ∈ l.objectNames ↔ ∃ c ∈ s.loopback, c.protocol = p ∧ c.name = o

/-- A server is found under the id that it is known as, with the name that it is shown as. -/
theorem Serves.found_of_isKnownAs {servers : List Config.Server} {n : Nat} (h : Serves servers g n)
    {s : Config.Server} (hs : s ∈ servers) {id : ServerId} {name : String} (hid : s.IsKnownAs id)
    (hname : s.IsShownAs name) :
    g.registry.get? id = some ⟨id, s.url, name, !s.loopback.isEmpty, none⟩ := by
  obtain rfl := Config.Server.isKnownAs_iff.mp hid
  obtain rfl := Config.Server.isShownAs_iff.mp hname
  exact h.found s hs

/-- A family of a server is served by the adapter that was made for it. -/
theorem Installed.memory {servers : List Config.Server}
    (hids : (servers.map Config.Server.serverId).Nodup)
    (h : Installed g (servers.flatMap memoryInstallations)) {s : Config.Server} (hs : s ∈ servers)
    {p : Protocol} {number : Nat} (hroute : g.routes.get? ⟨s.serverId, p⟩ = some number) :
    g.adapters[number]? = some (.loopback (.ofConfig s.serverId p s.loopback)) := by
  have hroute := (h.routes _ _).mp hroute
  rw [List.getElem?_map] at hroute
  obtain ⟨i, hi, heq⟩ := Option.map_eq_some_iff.mp hroute
  obtain ⟨s', hs', hmem⟩ := List.mem_flatMap.mp (List.mem_of_getElem? hi)
  obtain ⟨p', -, rfl⟩ := List.mem_map.mp hmem
  -- the adapter was installed for a server with this id, and only one server has it
  obtain ⟨hid, hp⟩ := Route.mk.inj heq
  obtain rfl := List.inj_on_of_nodup_map hids hs' hs hid
  obtain rfl : p' = p := hp
  rw [h.adapters, List.getElem?_map, hi]
  rfl

/-- A gateway whose ids are apart serves all its servers. -/
theorem serves_registerLoopback {c : Config} (hids : (c.servers.map Config.Server.serverId).Nodup)
    (clock : Clock) :
    Serves c.servers ((new c clock).registerLoopback c.servers).1
      ((new c clock).registerLoopback c.servers).2 := by
  have hroutes := nodup_routes hids
  have hnew : Installed (new c clock) [] := ⟨rfl, fun r n => by simp [new]⟩
  obtain ⟨h, hcount⟩ := hnew.registerLoopback c.servers (by simpa using hroutes)
  rw [List.nil_append] at h
  have hregistry : ((new c clock).registerLoopback c.servers).1.registry =
      ⟨([] ++ c.servers).map Registry.served⟩ :=
    servers_registerLoopback (by simpa using hids) rfl
  rw [List.nil_append] at hregistry
  have hperm : ((c.servers.flatMap memoryInstallations).map Installation.route).Perm
      (Config.loopbackRoutes c.servers).dedup :=
    (List.perm_ext_iff_of_nodup hroutes (List.nodup_dedup _)).mpr fun r => by
      rw [mem_routes_iff, List.mem_dedup]
  refine ⟨by rw [hregistry]; rfl, ?_, ⟨?_, ?_⟩, ?_, ?_, ?_⟩
  · intro s hs
    rw [hregistry]
    exact Registry.get?_served hids hs
  · rw [hcount, ← hperm.length_eq, List.length_map]
  · rw [h.adapters, List.length_map, hcount]
  · intro r
    rw [← mem_routes_iff, List.mem_iff_getElem?]
    exact exists_congr fun number => h.routes r number
  · intro number hnumber
    have hlt :
        number < ((c.servers.flatMap memoryInstallations).map Installation.route).length := by
      rwa [List.length_map, ← hcount]
    refine ⟨_, (h.routes _ _).mpr (List.getElem?_eq_getElem hlt), ?_⟩
    intro r' hr'
    have hr' := (h.routes _ _).mp hr'
    rw [List.getElem?_eq_getElem hlt] at hr'
    exact (Option.some.inj hr').symm
  · intro s hs p number hroute
    exact ⟨_, h.memory hids hs hroute, rfl, rfl, mem_objectNames_iff s.serverId p s.loopback⟩

/-- **Settings are accepted exactly when they are usable, and then every server is served.** The ids
that have to be apart are those that servers come out with: given ones without the white space
around them, and ones made from URLs. -/
theorem serves_of_validate (c : Config) (clock : Clock) :
    (c.validate = .ok () ↔ c.Usable) ∧
      (c.validate = .ok () →
        Serves c.servers ((new c clock).registerLoopback c.servers).1
          ((new c clock).registerLoopback c.servers).2) := by
  have hvalidate := Config.validate_eq_ok_iff c
  exact ⟨hvalidate, fun hok => serves_registerLoopback (hvalidate.mp hok).distinct clock⟩

/-- Settings with an id to be trimmed, objects of two families, and a server with no id and none. -/
def twoServers : Config where
  servers := [
    { id := some " plant ", url := "http://localhost:9090",
      loopback := [⟨"Tank", .ionc, [{ name := "Level" }]⟩, ⟨"Master", .modbus, []⟩,
        ⟨"Slave", .modbus, []⟩] },
    { url := "http://localhost:9091" }]

/-- Both servers are served, with one adapter for each of the two families. -/
theorem serves_twoServers :
    twoServers.validate = .ok () ∧
      Serves twoServers.servers
        ((new twoServers ⟨⟨0, 0⟩, 0⟩).registerLoopback twoServers.servers).1 2 := by
  have hok : twoServers.validate = .ok () := by decide +kernel
  have hcount : ((new twoServers ⟨⟨0, 0⟩, 0⟩).registerLoopback twoServers.servers).2 = 2 := by
    decide +kernel
  have hserves := (serves_of_validate twoServers ⟨⟨0, 0⟩, 0⟩).2 hok
  rw [hcount] at hserves
  exact ⟨hok, hserves⟩

end Gateway

end SensorGateway
