import CallGateway.Proofs.Settings.Tree
import CallGateway.Proofs.SocketAddress

/-!
# Settings that have been written to a file

Settings are loaded from the text in which they are shown: every field of every record arrives, the
pools as they are, and none of the defaults shows through. The one condition is that the integers
have 63 bits, since greater ones become floating-point numbers on the way.
-/

namespace CallGateway

open Json (Value)

namespace Settings

open Node

/-- The integers have 63 bits. -/
structure Signed (s : Settings) : Prop where
  requestTimeout : s.gateway.requestTimeout.toNat < 2 ^ 63
  readinessWait : s.gateway.readinessWait.toNat < 2 ^ 63
  replicas : ∀ p ∈ s.pools, p.replicas.toNat < 2 ^ 63
  concurrency : ∀ p ∈ s.pools, p.concurrency.toNat < 2 ^ 63
  executionTimeout : ∀ p ∈ s.pools, ∀ t ∈ p.executionTimeout, t.toNat < 2 ^ 63

namespace Reader

/-- The value is read as what it has been printed for. -/
def Reads (r : Reader α) (v : Value) (a : α) : Prop := r (ofJson v.normal) = some a

theorem reads_string (s : String) : Reads string (.string s) s := rfl

theorem reads_bool (b : Bool) : Reads bool (.bool b) b := rfl

/-- A number is an integer or a floating-point number in a tree, too. -/
theorem ofNumber_cases (n : Json.Number) :
    (∃ i, ofNumber n = .int i) ∨ ∃ x, ofNumber n = .float x := by
  cases n with
  | float x => exact .inr ⟨_, rfl⟩
  | int n wide =>
    by_cases h : n < 2 ^ 63
    · exact .inl ⟨_, if_pos h⟩
    · exact .inr ⟨_, if_neg h⟩

theorem reads_uint64 {n : UInt64} (h : n.toNat < 2 ^ 63) : Reads uint64 (.ofUInt64 n) n := by
  have small : (n.toNat : Int) < 2 ^ 63 := by omega
  have hnode : ofJson (Value.ofUInt64 n).normal = .int (Int64.ofInt n.toNat) := by
    simp only [Value.ofUInt64, Value.normal, ofJson, ofNumber, if_pos small]
  have nonneg : ¬ Int64.ofInt n.toNat < 0 := by
    rw [Int64.lt_iff_toInt_lt, Int64.toInt_ofInt_of_le (by omega) small]
    exact Int.not_lt.2 (Int.natCast_nonneg _)
  rw [Reads, hnode, uint64, if_neg nonneg, Int64.ofInt_eq_ofNat, Int64.toUInt64_ofNat',
    UInt64.ofNat_toNat]

theorem reads_option {r : Reader α} {f : α → Value} (o : Option α)
    (some_ne_nil : ∀ a, ofJson (f a).normal ≠ .nil) (h : ∀ a ∈ o, Reads r (f a) a) :
    Reads (option r) (.ofOption f o) o := by
  cases o with
  | none => rfl
  | some a =>
    rw [Reads, Value.ofOption, option]
    · rw [h a rfl, Option.map_some]
    · exact some_ne_nil a

theorem ofItems_eq_map (vs : List Value) : ofItems vs = vs.map ofJson := by
  induction vs with
  | nil => rfl
  | cons v vs ih => rw [ofItems, ih, List.map_cons]

theorem reads_list {r : Reader α} {f : α → Value} {xs : List α} (h : ∀ a ∈ xs, Reads r (f a) a) :
    Reads (list r) (.array (xs.map f)) xs := by
  rw [Reads, Value.normal, ofJson, Value.normalItems_eq_map, ofItems_eq_map, list, List.map_map,
    List.map_map]
  induction xs with
  | nil => rfl
  | cons x xs ih =>
    obtain ⟨hx, hxs⟩ := List.forall_mem_cons.1 h
    have hx : r (((ofJson ∘ Value.normal) ∘ f) x) = some x := hx
    rw [List.map_cons, List.mapM_cons, hx, Option.bind_eq_bind, Option.bind_some, ih hxs]
    rfl

theorem reads_address (a : SocketAddress) : Reads address a.toJson a := by
  rw [Reads, address]
  exact SocketAddress.parse?_display a

/-! ## Records -/

/-- The fields of a record as it is printed. -/
def fieldsOf : Value → List (String × Value)
  | .object fs => fs
  | _ => []

theorem field_of_reads {gs : List (String × Node)} {name : String} {v : Value} {r : Reader α}
    {a : α} (H : gs.lookup name = some (ofJson v.normal)) (R : Reads r v a) (absent : Option α) :
    field r absent (gs.lookup name) = some a := by
  rw [H, field]
  exact R

/-- A gateway is read field by field. -/
theorem gateway_eq_some_iff {gs : List (String × Node)} {g : GatewaySettings} :
    gateway (.table gs) = some g ↔
      field (option string) (some none) (gs.lookup "instance_id") = some g.instanceId ∧
      field uint64 (some 30000) (gs.lookup "request_timeout_ms") = some g.requestTimeout ∧
      field string (some defaultTopicSuffix) (gs.lookup "topic_suffix") = some g.topicSuffix ∧
      field uint64 (some 2000) (gs.lookup "readiness_wait_ms") = some g.readinessWait := by
  simp only [gateway, fields, Option.bind_eq_bind, Option.bind_some, Option.bind_eq_some_iff,
    Option.pure_def, Option.some.injEq]
  constructor
  · rintro ⟨_, hid, _, htimeout, _, hsuffix, _, hwait, rfl⟩
    exact ⟨hid, htimeout, hsuffix, hwait⟩
  · rintro ⟨hid, htimeout, hsuffix, hwait⟩
    exact ⟨_, hid, _, htimeout, _, hsuffix, _, hwait, rfl⟩

/-- And so are all settings. -/
theorem settings_eq_some_iff {gs : List (String × Node)} {s : Settings} :
    settings (.table gs) = some s ↔
      field listen (some {}) (gs.lookup "server") = some s.listen ∧
      field gateway (some {}) (gs.lookup "gateway") = some s.gateway ∧
      field (list pool) (some [{ service := "client-1" }]) (gs.lookup "workers") = some s.pools ∧
      field log (some {}) (gs.lookup "logging") = some s.log := by
  simp only [settings, fields, Option.bind_eq_bind, Option.bind_some, Option.bind_eq_some_iff,
    Option.pure_def, Option.some.injEq]
  constructor
  · rintro ⟨_, hlisten, _, hgateway, _, hpools, _, hlog, rfl⟩
    exact ⟨hlisten, hgateway, hpools, hlog⟩
  · rintro ⟨hlisten, hgateway, hpools, hlog⟩
    exact ⟨_, hlisten, _, hgateway, _, hpools, _, hlog, rfl⟩

theorem listen_of_holds {n : Node} {s : ListenSettings} (H : Holds n (fieldsOf s.toJson)) :
    listen n = some s := by
  obtain ⟨gs, rfl, H⟩ := H
  simp only [listen, fields, Option.bind_eq_bind, Option.bind_some,
    field_of_reads (H "listen_addr" _ rfl) (reads_address _),
    field_of_reads (H "enable_cors" _ rfl) (reads_bool _), Option.pure_def]

theorem gateway_of_holds {n : Node} {s : GatewaySettings}
    (timeout : s.requestTimeout.toNat < 2 ^ 63) (wait : s.readinessWait.toNat < 2 ^ 63)
    (H : Holds n (fieldsOf s.toJson)) : gateway n = some s := by
  obtain ⟨gs, rfl, H⟩ := H
  have instanceId : Reads (option string) (.ofOption .string s.instanceId) s.instanceId :=
    reads_option _ nofun fun a _ => reads_string a
  exact gateway_eq_some_iff.2 ⟨field_of_reads (H "instance_id" _ rfl) instanceId _,
    field_of_reads (H "request_timeout_ms" _ rfl) (reads_uint64 timeout) _,
    field_of_reads (H "topic_suffix" _ rfl) (reads_string _) _,
    field_of_reads (H "readiness_wait_ms" _ rfl) (reads_uint64 wait) _⟩

theorem log_of_holds {n : Node} {s : LogSettings} (H : Holds n (fieldsOf s.toJson)) :
    log n = some s := by
  obtain ⟨gs, rfl, H⟩ := H
  simp only [log, fields, Option.bind_eq_bind, Option.bind_some,
    field_of_reads (H "level" _ rfl) (reads_string _),
    field_of_reads (H "json" _ rfl) (reads_bool _), Option.pure_def]

theorem number_ne_nil (n : UInt64) : ofJson (Value.ofUInt64 n).normal ≠ .nil := by
  obtain ⟨number, h⟩ : ∃ number, Value.ofUInt64 n = .number number := ⟨_, rfl⟩
  simp only [h, Value.normal, ofJson]
  obtain ⟨i, h⟩ | ⟨x, h⟩ := ofNumber_cases number <;> simp [h]

theorem reads_pool {p : PoolSettings} (replicas : p.replicas.toNat < 2 ^ 63)
    (concurrency : p.concurrency.toNat < 2 ^ 63)
    (timeout : ∀ t ∈ p.executionTimeout, t.toNat < 2 ^ 63) : Reads pool p.toJson p := by
  have names : ((fieldsOf p.toJson).map (·.1)).Nodup := by
    show ["service", "procedures", "replicas", "concurrency", "execution_timeout_ms",
      "strict_parameters"].Nodup
    decide
  obtain ⟨gs, hgs, H⟩ := holds_ofJson names
  have procedures : Reads (list string) (.strings p.procedures) p.procedures :=
    reads_list fun s _ => reads_string s
  have timeout : Reads (option uint64) (.ofOption .ofUInt64 p.executionTimeout)
      p.executionTimeout :=
    reads_option _ number_ne_nil fun t ht => reads_uint64 (timeout t ht)
  rw [Reads, show ofJson p.toJson.normal = .table gs from hgs]
  simp only [pool, fields, Option.bind_eq_bind, Option.bind_some,
    field_of_reads (H "service" _ rfl) (reads_string _),
    field_of_reads (H "procedures" _ rfl) procedures,
    field_of_reads (H "replicas" _ rfl) (reads_uint64 replicas),
    field_of_reads (H "concurrency" _ rfl) (reads_uint64 concurrency),
    field_of_reads (H "execution_timeout_ms" _ rfl) timeout,
    field_of_reads (H "strict_parameters" _ rfl) (reads_bool _), Option.pure_def]

end Reader

/-! ## The file -/

variable {s : Settings}

open Reader

/-- What is no object hides what is below it. -/
theorem solid_of_ne_object {v : Value} (h : ∀ fs, v ≠ .object fs) : Solid (ofJson v.normal) := by
  intro below
  cases v with
  | object fs => exact absurd rfl (h fs)
  | number n =>
    show onto below (ofNumber n) = ofNumber n
    obtain ⟨i, h⟩ | ⟨x, h⟩ := ofNumber_cases n <;> rw [h] <;> simp only [onto]
  | null | bool | string => simp only [Value.normal, ofJson, onto]
  | array items => simp only [Value.normal, ofJson, onto]

/-- No field of the record is a record itself. -/
def Flat (fs : List (String × Value)) : Prop := ∀ f ∈ fs, ∀ gs, f.2 ≠ .object gs

theorem Flat.holds {fs : List (String × Value)} (F : Flat fs) (C : Canonical (fs.map (·.1)))
    (hfs : fs ≠ []) (below : Option Node) :
    Holds (onto below (ofJson (Value.object fs).normal)) fs :=
  holds_onto C hfs (fun f hf => solid_of_ne_object (F f hf)) below

theorem holds_listen (s : ListenSettings) (below : Option Node) :
    Holds (onto below (ofJson s.toJson.normal)) (fieldsOf s.toJson) := by
  have names : Canonical ["listen_addr", "enable_cors"] :=
    canonical_of_plain (by decide) (by decide)
  have flat : Flat (fieldsOf s.toJson) := by
    simp [Flat, fieldsOf, ListenSettings.toJson, SocketAddress.toJson]
  exact flat.holds names (List.cons_ne_nil _ _) below

theorem holds_gateway (s : GatewaySettings) (below : Option Node) :
    Holds (onto below (ofJson s.toJson.normal)) (fieldsOf s.toJson) := by
  have names : Canonical ["instance_id", "request_timeout_ms", "topic_suffix",
      "readiness_wait_ms"] :=
    canonical_of_plain (by decide) (by decide)
  have flat : Flat (fieldsOf s.toJson) := by
    cases h : s.instanceId <;>
      simp [Flat, fieldsOf, GatewaySettings.toJson, Value.ofOption, Value.ofUInt64, h]
  exact flat.holds names (List.cons_ne_nil _ _) below

theorem holds_log (s : LogSettings) (below : Option Node) :
    Holds (onto below (ofJson s.toJson.normal)) (fieldsOf s.toJson) := by
  have names : Canonical ["level", "json"] :=
    canonical_of_plain (by decide) (by decide)
  have flat : Flat (fieldsOf s.toJson) := by simp [Flat, fieldsOf, LogSettings.toJson]
  exact flat.holds names (List.cons_ne_nil _ _) below

theorem Signed.reads_pools (S : s.Signed) :
    Reads (list pool) (.array (s.pools.map PoolSettings.toJson)) s.pools :=
  reads_list fun p hp => reads_pool (S.replicas p hp) (S.concurrency p hp) (S.executionTimeout p hp)

/-- Settings are read from a tree over which all of them have been laid. -/
theorem Signed.settings_of_laid (S : s.Signed) {gs : List (String × Node)}
    (H : ∀ name v, (fieldsOf s.toJson).lookup name = some v →
      ∃ below, gs.lookup name = some (onto below (ofJson v.normal))) :
    Reader.settings (.table gs) = some s := by
  obtain ⟨b₁, hlisten⟩ := H "server" _ rfl
  obtain ⟨b₂, hgateway⟩ := H "gateway" _ rfl
  obtain ⟨b₃, hpools⟩ := H "workers" _ rfl
  obtain ⟨b₄, hlog⟩ := H "logging" _ rfl
  have harray (fs) : Value.array (s.pools.map PoolSettings.toJson) ≠ .object fs := nofun
  rw [solid_of_ne_object harray] at hpools
  rw [settings_eq_some_iff, hlisten, hgateway, hpools, hlog]
  exact ⟨listen_of_holds (holds_listen s.listen b₁),
    gateway_of_holds S.requestTimeout S.readinessWait (holds_gateway s.gateway b₂),
    S.reads_pools, log_of_holds (holds_log s.log b₄)⟩

/-! ## The text -/

theorem nesting_strings (xs : List String) : (Value.strings xs).nesting ≤ 1 := by
  rw [Value.strings, Value.nesting]
  refine Nat.succ_le_succ (Value.nestingItems_le_iff.2 fun v hv => ?_)
  obtain ⟨s, -, rfl⟩ := List.mem_map.1 hv
  exact Nat.le_refl 0

theorem floats_strings (xs : List String) : (Value.strings xs).floats = [] := by
  rw [Value.strings, Value.floats, List.eq_nil_iff_forall_not_mem]
  intro x hx
  obtain ⟨v, hv, hx⟩ := Value.mem_floatsItems.1 hx
  obtain ⟨s, -, rfl⟩ := List.mem_map.1 hv
  exact List.not_mem_nil hx

/-- The texts and integers of a pool lie two deep. -/
theorem pool_bounds (p : PoolSettings) : p.toJson.nesting ≤ 2 ∧ p.toJson.floats = [] := by
  have timeout : (Value.ofOption .ofUInt64 p.executionTimeout).nesting = 0 ∧
      (Value.ofOption .ofUInt64 p.executionTimeout).floats = [] := by
    cases p.executionTimeout <;> exact ⟨rfl, rfl⟩
  have procedures := nesting_strings p.procedures
  constructor
  · simp only [PoolSettings.toJson, Value.nesting, Value.nestingFields, Value.ofUInt64, timeout.1]
    omega
  · simp only [PoolSettings.toJson, Value.floats, Value.floatsFields, Value.ofUInt64, timeout.2,
      floats_strings, List.append_nil]

theorem toJson_bounds (s : Settings) :
    s.toJson.nesting ≤ Json.nestingLimit ∧ s.toJson.floats = [] := by
  have pools : (Value.array (s.pools.map PoolSettings.toJson)).nesting ≤ 3 := by
    rw [Value.nesting]
    refine Nat.succ_le_succ (Value.nestingItems_le_iff.2 fun v hv => ?_)
    obtain ⟨p, -, rfl⟩ := List.mem_map.1 hv
    exact (pool_bounds p).1
  have pools' : (Value.array (s.pools.map PoolSettings.toJson)).floats = [] := by
    rw [Value.floats, List.eq_nil_iff_forall_not_mem]
    intro x hx
    obtain ⟨v, hv, hx⟩ := Value.mem_floatsItems.1 hx
    obtain ⟨p, -, rfl⟩ := List.mem_map.1 hv
    rw [(pool_bounds p).2] at hx
    exact List.not_mem_nil hx
  have instanceId : (Value.ofOption .string s.gateway.instanceId).nesting = 0 ∧
      (Value.ofOption .string s.gateway.instanceId).floats = [] := by
    cases s.gateway.instanceId <;> exact ⟨rfl, rfl⟩
  constructor
  · rw [Value.nesting] at pools
    simp only [Settings.toJson, ListenSettings.toJson, GatewaySettings.toJson, LogSettings.toJson,
      SocketAddress.toJson, Value.ofUInt64, Value.nesting, Value.nestingFields, instanceId.1,
      Json.nestingLimit]
    omega
  · rw [Value.floats] at pools'
    simp only [Settings.toJson, ListenSettings.toJson, GatewaySettings.toJson, LogSettings.toJson,
      SocketAddress.toJson, Value.ofUInt64, Value.floats, Value.floatsFields, instanceId.2, pools',
      List.append_nil]

theorem ofFile?_print (s : Settings) :
    ofFile? s.toJson.print = some (layer (fieldsOf s.toJson)) := by
  obtain ⟨hnesting, hfloats⟩ := s.toJson_bounds
  have survive : ∀ x ∈ s.toJson.floats, Value.Survives x := by
    rw [hfloats]
    exact fun x hx => absurd hx List.not_mem_nil
  rw [← Nat.zero_add s.toJson.nesting] at hnesting
  rw [ofFile?, Value.decode_print, Value.readBack_eq_tree _ hnesting survive, Value.value_tree]
  rfl

/-! ## Loading -/

theorem names_settings (s : Settings) : Canonical ((fieldsOf s.toJson).map (·.1)) := by
  show Canonical ["server", "gateway", "workers", "logging"]
  exact canonical_of_plain (by decide) (by decide)

theorem plain_settings (s : Settings) :
    ∀ name ∈ (fieldsOf s.toJson).map (·.1), Path.ofKey name = ⟨name, []⟩ := by
  show ∀ name ∈ ["server", "gateway", "workers", "logging"], Path.ofKey name = ⟨name, []⟩
  decide

theorem ofEnvironment_eq_nil {environment : List (String × String)}
    (unset : ∀ v ∈ environment, keyOfVariable? v.1 = none) : ofEnvironment environment = [] := by
  rw [ofEnvironment, List.filterMap_eq_nil_iff]
  intro v hv
  show (keyOfVariable? v.1).map _ = none
  rw [unset v hv, Option.map_none]

theorem plain_defaults : ∀ f ∈ (ofJson (toJson {})).fields, Path.ofKey f.1 = ⟨f.1, []⟩ := by
  intro f hf
  have name : f.1 ∈ (ofFields (fieldsOf (toJson {}))).map (·.1) := List.mem_map_of_mem hf
  rw [map_fst_ofFields] at name
  exact plain_settings _ _ name

/-- The defaults and the file both name the four records. -/
theorem plain_layers (s : Settings) :
    ∀ f ∈ layers (layer (fieldsOf s.toJson)) [], Path.ofKey f.1 = ⟨f.1, []⟩ := by
  intro f hf
  rw [layers, List.append_nil] at hf
  rcases List.mem_append.1 hf with h | h
  · exact plain_defaults f h
  · have names := names_layer (names_settings s).nodup
    exact plain_settings s _ (names.mem_iff.1 (List.mem_map_of_mem h))

/-- Settings come back from the file to which they have been written, unless a variable sets one of
them. -/
theorem load_print (S : s.Signed) {environment : List (String × String)}
    (unset : ∀ v ∈ environment, keyOfVariable? v.1 = none) :
    load (some s.toJson.print) environment = .ok s := by
  have laid : layOver? (.table []) (layers (layer (fieldsOf s.toJson))
      (ofEnvironment environment)) =
        some (.table (fieldsOnto [] (layers (layer (fieldsOf s.toJson)) []))) := by
    rw [ofEnvironment_eq_nil unset]
    exact layOver?_eq [] (plain_layers s)
  refine load_eq_ok (.inr ⟨_, rfl, ofFile?_print s⟩) laid (S.settings_of_laid fun name v h => ?_)
  rw [layers, List.append_nil, fieldsOnto_append]
  exact ⟨_, lookup_laid (names_settings s) h _⟩

/-- Settings without pools. -/
def poolless : Settings where
  listen := { address := .v6 ⟨#v[0, 0, 0, 0, 0, 0xffff, 0xc000, 0x0201]⟩ 0 443 }
  gateway := { instanceId := some "007", requestTimeout := 9223372036854775807 }
  pools := []
  log := { level := "" }

/-- Settings with a pool that has a budget, the greatest that there is, and one that has none. -/
def pooled : Settings where
  pools := [
    { service := "Client_1", procedures := ["echo"], replicas := 2
      concurrency := 9223372036854775807, executionTimeout := some 9223372036854775807
      strict := true },
    { service := "true", procedures := [], replicas := 0 }]

theorem signed_poolless : poolless.Signed where
  requestTimeout := by decide +kernel
  readinessWait := by decide +kernel
  replicas := nofun
  concurrency := nofun
  executionTimeout := nofun

theorem signed_pooled : pooled.Signed where
  requestTimeout := by decide +kernel
  readinessWait := by decide +kernel
  replicas := by decide +kernel
  concurrency := by decide +kernel
  executionTimeout := by
    intro p hp t ht
    obtain rfl | rfl : p = _ ∨ p = _ := by simpa [pooled] using hp
    · cases ht
      decide +kernel
    · cases ht

/-- No pool comes from elsewhere, and none gets lost. -/
theorem load_print_pools : poolless.Signed ∧ pooled.Signed ∧
    load (some poolless.toJson.print) [("HOME", "/root")] = .ok poolless ∧
    load (some pooled.toJson.print) [("HOME", "/root")] = .ok pooled := by
  have unset : ∀ v ∈ [("HOME", "/root")], keyOfVariable? v.1 = none := by decide +kernel
  exact ⟨signed_poolless, signed_pooled, load_print signed_poolless unset,
    load_print signed_pooled unset⟩

end Settings

end CallGateway
