import CallGateway.Proofs.Settings.File
import CallGateway.Proofs.Settings.Scalar

/-!
# Settings from one variable

A variable changes the one setting that it names: everything else keeps its default. The name of
the gateway and the suffix of its topics are texts, but a text from the environment is first taken
for what it spells, so that these two arrive as they were given only if they are what they are
taken for. From a file they always arrive as they are.
-/

namespace CallGateway.Settings

open Node
open Reader (fieldsOf)

/-! ## The environment -/

/-- Of the variables, this one alone is a setting. -/
def OnlyVariable (environment : List (String × String)) (name text : String) : Prop :=
  environment.filter (fun v => (keyOfVariable? v.1).isSome) = [(name, text)]

instance (environment : List (String × String)) (name text : String) :
    Decidable (OnlyVariable environment name text) := inferInstanceAs (Decidable (_ = _))

theorem OnlyVariable.ofEnvironment {environment : List (String × String)} {name text key : String}
    (H : OnlyVariable environment name text) (hkey : keyOfVariable? name = some key) :
    ofEnvironment environment = [(key, .ofText text)] := by
  have others : Settings.ofEnvironment environment = Settings.ofEnvironment
      (environment.filter fun v => (keyOfVariable? v.1).isSome) := by
    rw [Settings.ofEnvironment, Settings.ofEnvironment, List.filterMap_filter]
    refine congrArg (List.filterMap · environment) (funext fun v => ?_)
    cases hv : keyOfVariable? v.1 <;> simp [hv]
  rw [others, H]
  simp only [Settings.ofEnvironment, List.filterMap_cons, hkey, Option.map_some, List.filterMap_nil]

/-! ## The tree -/

/-- The defaults as a tree. -/
def defaults : List (String × Node) := fieldsOnto [] (ofJson (toJson {})).fields

theorem settings_defaults : Reader.settings (.table defaults) = some {} := by decide +kernel

theorem exists_lookup_gateway : ∃ gw, defaults.lookup "gateway" = some (.table gw) := by
  have names : Canonical ((ofFields (fieldsOf (toJson {}))).map (·.1)) := by
    rw [map_fst_ofFields]
    exact names_settings {}
  have h : (ofFields (fieldsOf (toJson {}))).lookup "gateway" =
      some (ofJson (GatewaySettings.toJson {})) := by
    rw [lookup_ofFields]
    rfl
  obtain ⟨fs, hfs⟩ : ∃ fs, ofJson (GatewaySettings.toJson {}) = .table fs := ⟨_, rfl⟩
  refine ⟨fieldsOnto [] fs, (lookup_fieldsOnto names h).trans ?_⟩
  rw [hfs, List.lookup_nil, onto]

/-- A key of two names lays its setting over what the first one leads to. -/
theorem layOver?_variable {key field : String} {gw : List (String × Node)} (n : Node)
    (hpath : Path.ofKey key = ⟨"gateway", [.field field]⟩)
    (hgw : defaults.lookup "gateway" = some (.table gw)) :
    layOver? (.table []) (layers [] [(key, n)]) =
      some (.table (Json.insertField "gateway" ((Node.table gw).put field n) defaults)) := by
  have laid : layOver? (.table []) (ofJson (toJson {})).fields = some (.table defaults) :=
    layOver?_eq [] plain_defaults
  have hname : canonical "gateway" = "gateway" := IsPlain.canonical (by decide)
  rw [layOver?] at laid ⊢
  rw [layers, List.append_nil, List.foldlM_append, laid, Option.bind_eq_bind, Option.bind_some,
    List.foldlM_cons]
  simp only [hpath, putAt?, hname, Node.fields, hgw, Option.getD_some, Option.bind_eq_bind,
    Option.bind_some, Option.pure_def, List.foldlM_nil]

theorem lookup_put {field : String} (hfield : canonical field = field) {n : Node} (hn : Solid n)
    (gw : List (String × Node)) : ∃ gs, (Node.table gw).put field n = .table gs ∧
      ∀ name, gs.lookup name = if name = field then some n else gw.lookup name := by
  refine ⟨_, rfl, fun name => ?_⟩
  rw [fieldsOnto_cons hfield, fieldsOnto, Json.lookup_insertField, hn]
  rfl

/-! ## Reading -/

namespace Reader

variable {n : Node} {gw gs : List (String × Node)} {g : GatewaySettings} {s : Settings}

theorem option_string {t : String} (h : string n = some t) : option string n = some (some t) := by
  cases n with
  | nil => cases h
  | bool | int | float | string | array | table => simp only [option, h, Option.map_some]

theorem gateway_instanceId {i : Option String} (hn : Solid n) (hi : option string n = some i)
    (hg : gateway (.table gw) = some g) :
    gateway ((Node.table gw).put "instance_id" n) = some { g with instanceId := i } := by
  have hfield : canonical "instance_id" = "instance_id" := IsPlain.canonical (by decide)
  obtain ⟨gs, hgs, H⟩ := lookup_put hfield hn gw
  obtain ⟨-, timeout, suffix, wait⟩ := gateway_eq_some_iff.1 hg
  rw [hgs, gateway_eq_some_iff, H, H, H, H]
  exact ⟨hi, timeout, suffix, wait⟩

theorem gateway_topicSuffix {t : String} (hn : Solid n) (ht : string n = some t)
    (hg : gateway (.table gw) = some g) :
    gateway ((Node.table gw).put "topic_suffix" n) = some { g with topicSuffix := t } := by
  have hfield : canonical "topic_suffix" = "topic_suffix" := IsPlain.canonical (by decide)
  obtain ⟨gs, hgs, H⟩ := lookup_put hfield hn gw
  obtain ⟨id, timeout, -, wait⟩ := gateway_eq_some_iff.1 hg
  rw [hgs, gateway_eq_some_iff, H, H, H, H]
  exact ⟨id, timeout, ht, wait⟩

/-- The gateway of some settings is read from its field, and any other one may stand there. -/
theorem settings_insertField {m : Node} (hs : settings (.table gs) = some s)
    (hm : gs.lookup "gateway" = some m) : gateway m = some s.gateway ∧
      ∀ n g, gateway n = some g →
        settings (.table (Json.insertField "gateway" n gs)) = some { s with gateway := g } := by
  obtain ⟨listen, gateway, pools, log⟩ := settings_eq_some_iff.1 hs
  rw [hm] at gateway
  refine ⟨gateway, fun n g hg => ?_⟩
  rw [settings_eq_some_iff, Json.lookup_insertField, Json.lookup_insertField,
    Json.lookup_insertField, Json.lookup_insertField]
  exact ⟨listen, hg, pools, log⟩

end Reader

/-! ## Loading -/

section
variable {environment : List (String × String)} {name text key field t : String}

theorem load_gateway {g : GatewaySettings} (H : OnlyVariable environment name text)
    (hkey : keyOfVariable? name = some key)
    (hpath : Path.ofKey key = ⟨"gateway", [.field field]⟩)
    (hg : ∀ gw, Reader.gateway (.table gw) = some {} →
      Reader.gateway ((Node.table gw).put field (.ofText text)) = some g) :
    load none environment = .ok { gateway := g } := by
  obtain ⟨gw, hgw⟩ := exists_lookup_gateway
  obtain ⟨hbelow, hsettings⟩ := Reader.settings_insertField settings_defaults hgw
  have laid := layOver?_variable (.ofText text) hpath hgw
  rw [← H.ofEnvironment hkey] at laid
  exact load_eq_ok (.inl ⟨rfl, rfl⟩) laid (hsettings _ _ (hg gw hbelow))

theorem load_instanceId (H : OnlyVariable environment "RELAY_GATEWAY__INSTANCE_ID" text)
    (ht : Reader.string (.ofText text) = some t) :
    load none environment = .ok { gateway := { instanceId := some t } } := by
  have hkey : keyOfVariable? "RELAY_GATEWAY__INSTANCE_ID" = some "gateway.instance_id" := by
    decide +kernel
  have hpath : Path.ofKey "gateway.instance_id" = ⟨"gateway", [.field "instance_id"]⟩ := by
    decide +kernel
  exact load_gateway H hkey hpath fun _ =>
    Reader.gateway_instanceId (solid_ofText text) (Reader.option_string ht)

theorem load_topicSuffix (H : OnlyVariable environment "RELAY_GATEWAY__TOPIC_SUFFIX" text)
    (ht : Reader.string (.ofText text) = some t) :
    load none environment = .ok { gateway := { topicSuffix := t } } := by
  have hkey : keyOfVariable? "RELAY_GATEWAY__TOPIC_SUFFIX" = some "gateway.topic_suffix" := by
    decide +kernel
  have hpath : Path.ofKey "gateway.topic_suffix" = ⟨"gateway", [.field "topic_suffix"]⟩ := by
    decide +kernel
  exact load_gateway H hkey hpath fun _ => Reader.gateway_topicSuffix (solid_ofText text) ht

end

/-- A variable that gives the gateway a name or its topics a suffix always gives some, and nothing
else. It is the text of the variable if that is what it is taken for, and another one if not. -/
theorem load_variable (s : String) (environment : List (String × String)) :
    (OnlyVariable environment "RELAY_GATEWAY__INSTANCE_ID" s →
      ∃ t, load none environment = .ok { gateway := { instanceId := some t } } ∧
        (t = s ↔ Verbatim s)) ∧
    (OnlyVariable environment "RELAY_GATEWAY__TOPIC_SUFFIX" s →
      ∃ t, load none environment = .ok { gateway := { topicSuffix := t } } ∧
        (t = s ↔ Verbatim s)) := by
  obtain ⟨t, ht, same⟩ := exists_string_ofText s
  exact ⟨fun H => ⟨t, load_instanceId H ht, same⟩, fun H => ⟨t, load_topicSuffix H ht, same⟩⟩

/-- A name with letters arrives, and so does a number below zero. -/
theorem load_variable_letters :
    load none [("HOME", "/root"), ("RELAY_GATEWAY__INSTANCE_ID", "eu-7")] =
      .ok { gateway := { instanceId := some "eu-7" } } ∧
    load none [("RELAY", "x"), ("RELAY_GATEWAY__TOPIC_SUFFIX", "-7")] =
      .ok { gateway := { topicSuffix := "-7" } } := by
  have letters : Verbatim "eu-7" :=
    .text _ (by decide +kernel) (by decide +kernel) (by decide +kernel)
  have number : Verbatim "-7" := by
    have shown : toString (-7 : Int64).toInt = "-7" := by decide +kernel
    exact shown ▸ .int (-7)
  obtain ⟨t, ht, sameId⟩ :=
    (load_variable "eu-7" [("HOME", "/root"), ("RELAY_GATEWAY__INSTANCE_ID", "eu-7")]).1
      (by decide +kernel)
  obtain ⟨u, hu, sameSuffix⟩ :=
    (load_variable "-7" [("RELAY", "x"), ("RELAY_GATEWAY__TOPIC_SUFFIX", "-7")]).2
      (by decide +kernel)
  rw [sameId.2 letters] at ht
  rw [sameSuffix.2 number] at hu
  exact ⟨ht, hu⟩

/-- Leading zeros are lost. -/
theorem load_variable_leadingZeros :
    let environment := [("RELAY_GATEWAY__INSTANCE_ID", "007")]
    OnlyVariable environment "RELAY_GATEWAY__INSTANCE_ID" "007" ∧
      load none environment = .ok { gateway := { instanceId := some "7" } } ∧
      load none environment ≠ .ok { gateway := { instanceId := some "007" } } := by
  intro environment
  have only : OnlyVariable environment "RELAY_GATEWAY__INSTANCE_ID" "007" := by decide +kernel
  have taken : Reader.string (.ofText "007") = some "7" := by decide +kernel
  have loaded := load_instanceId only taken
  refine ⟨only, loaded, fun h => ?_⟩
  rw [loaded] at h
  have names := congrArg (·.gateway.instanceId) (Except.ok.inj h)
  exact absurd names (by decide)

end CallGateway.Settings
