import MonitoringConfig.Method
import MonitoringConfig.Proofs.Operator.Converted
import MonitoringConfig.Proofs.Projection.RoundTrip
/-!
# Rules in resources

A rule file becomes a resource of the operator, which holds the same groups. Resources are written
in the camel style, but the groups in them as in the file.

* `Operator.ruleResourceOf` : the resource of a rule file, by a plain description.
* `Operator.rules_survive` : **a rule file comes back from its plain data**, its groups are written
  into the resource as they are written into the file, and the resource that is read again gives the
  rule file back.
-/

namespace MonitoringConfig

/-! ### Plain data -/

namespace Value

/-- An entity that imposes a style is written in the same way wherever it stands. -/
theorem encode_of_imposed {kind : Kind} {fields : List Value} {imposed : Style}
    (hkind : kind.isProjected = true) (hstyle : kind.schema.style? = some imposed)
    (style style' : Style) :
    encode style (entity kind fields) = encode style' (entity kind fields) := by
  simp [encode, hkind, Schema.styleIn, hstyle]

end Value

namespace Operator

open Conversion

/-- The resource of a rule file. -/
def ruleResourceOf (name space file labels : Value) : Value :=
  .build .ruleResource [("metadata", metadataOf name space labels),
    ("spec", .build .ruleResourceSpec [("groups", file.get "groups")])]

variable {name space file labels : Value}

theorem groupsOf_eq {v : Value} {kind : Kind} (h : v.fits (.entity kind) = true)
    (ht : kind.schema.type? "groups" = some (.listOf (.entity .ruleGroup))) :
    groupsOf v = .ok (v.get "groups").elements := by
  rw [groupsOf, (Value.get_fits h ht).1]
  exact Value.items_eq_elements (Value.elements_fits h ht).1

theorem ofRuleFile_eq (hfile : file.fits (.entity .ruleFile) = true)
    (hlabels : labels.fits (.optional (.mapOf .text)) = true) :
    ofRuleFile name space file labels = .ok (ruleResourceOf name space file labels) := by
  have hgroups := (Value.elements_fits hfile (rfl : Kind.ruleFile.schema.type? "groups" = _)).1
  have hspec := fun given => Entity.of_isPlain .ruleResourceSpec given rfl rfl rfl
  have hresource := fun given => Entity.of_isPlain .ruleResource given rfl rfl rfl
  rw [ofRuleFile, groupsOf_eq hfile rfl]
  simp only [bind, Except.bind, hspec, metadata_eq hlabels, hresource, ← hgroups]
  rfl

section

variable (hname : name.fits .text = true) (hspace : space.fits .text = true)
  (hlabels : labels.fits (.optional (.mapOf .text)) = true)
include hname hspace hlabels

theorem ruleResourceOf_fits (hfile : file.fits (.entity .ruleFile) = true) :
    (ruleResourceOf name space file labels).fits (.entity .ruleResource) = true := by
  refine Value.fits_build (List.forall_mem_cons.2 ⟨?_, List.forall_mem_singleton.2 ?_⟩)
  · exact metadataOf_fits hname hspace hlabels
  · refine Value.fits_build (List.forall_mem_singleton.2 ?_)
    exact (Value.get_fits hfile (rfl : Kind.ruleFile.schema.type? "groups" = _)).2

theorem isWholeMillis_ruleResourceOf (hmillis : file.isWholeMillis = true) :
    (ruleResourceOf name space file labels).isWholeMillis = true := by
  have hmetadata := metadataOf_fits hname hspace hlabels
  refine Value.everywhere_build (List.forall_mem_cons.2 ⟨?_, List.forall_mem_singleton.2 ?_⟩)
  · exact Value.isWholeMillis_of_fits (by decide) hmetadata
  · refine Value.everywhere_build (List.forall_mem_singleton.2 ?_)
    exact Value.everywhere_get rfl hmillis "groups"

end

/-- Groups are written in the style of rule files wherever they stand. -/
theorem encode_groups (hfile : file.fits (.entity .ruleFile) = true) (style : Style) :
    (file.get "groups").encode style = (file.get "groups").encode .snake := by
  obtain ⟨hlist, hgroups⟩ :=
    Value.elements_fits hfile (rfl : Kind.ruleFile.schema.type? "groups" = _)
  rw [hlist, Value.encode, Value.encode, Value.encodeList_eq_map, Value.encodeList_eq_map]
  refine congrArg Value.list (List.map_congr_left ?_)
  intro group hgroup
  obtain ⟨fields, rfl, -⟩ := Value.eq_entity_of_fits (hgroups group hgroup)
  exact Value.encode_of_imposed rfl rfl style .snake

theorem valueAt?_groups (hfile : file.fits (.entity .ruleFile) = true) (style : Style) :
    (file.encode style).valueAt? "groups" = some ((file.get "groups").encode .snake) := by
  have hlist := (Value.elements_fits hfile (rfl : Kind.ruleFile.schema.type? "groups" = _)).1
  have hparts : file = .entity .ruleFile [file.get "groups"] :=
    Value.eq_entity_map_get hfile (by decide)
  have hencode : file.encode style =
      .map [(.text "groups", (file.get "groups").encode .snake)] := by
    rw [hparts, hlist]
    rfl
  rw [hencode]
  simp [Value.valueAt?, Value.lookup?]

/-- The groups of a rule file are written into the resource as they are written into the file. -/
theorem valueAt?_spec_groups (hfile : file.fits (.entity .ruleFile) = true) (style : Style) :
    (((ruleResourceOf name space file labels).encode style).valueAt? "spec").bind
      (·.valueAt? "groups") = some ((file.get "groups").encode .snake) := by
  have hlist := (Value.elements_fits hfile (rfl : Kind.ruleFile.schema.type? "groups" = _)).1
  have hspec : (Value.entity .ruleResourceSpec [file.get "groups"]).encode .camel =
      .map [(.text "groups", (file.get "groups").encode .camel)] := by
    rw [hlist]
    rfl
  have hencode : (ruleResourceOf name space file labels).encode style =
      .map [(.text "apiVersion", .text Schema.monitoringVersion),
        (.text "kind", .text "PrometheusRule"),
        (.text "metadata", (metadataOf name space labels).encode .camel),
        (.text "spec", (Value.entity .ruleResourceSpec [file.get "groups"]).encode .camel)] := by
    rfl
  rw [hencode, hspec, encode_groups hfile]
  simp [Value.valueAt?, Value.lookup?]

/-- The resource of a rule file gives the rule file back. -/
theorem callMethod_to_rule_file (hfile : file.fits (.entity .ruleFile) = true) :
    ((ruleResourceOf name space file labels).callMethod "to_rule_file" [] []).result =
      .ok ⟨ruleResourceOf name space file labels, some file⟩ := by
  have hlist := (Value.elements_fits hfile (rfl : Kind.ruleFile.schema.type? "groups" = _)).1
  have hparts : file = .entity .ruleFile [file.get "groups"] :=
    Value.eq_entity_map_get hfile (by decide)
  have hmake : Entity.of .ruleFile [("groups", .list (file.get "groups").elements)] = .ok file := by
    rw [Entity.of_isPlain .ruleFile _ rfl rfl rfl, ← hlist]
    exact congrArg Except.ok hparts.symm
  have hspec : groupsOf (.entity .ruleResourceSpec [file.get "groups"]) =
      .ok (file.get "groups").elements := Value.items_eq_elements hlist
  have hmethod : (ruleResourceOf name space file labels).method? "to_rule_file" =
      some (.reading {} fun v _ => do
        Entity.of .ruleFile [("groups", .list (← groupsOf (← v.field "spec")))]) := rfl
  have hfield : (ruleResourceOf name space file labels).field "spec" =
      .ok (.entity .ruleResourceSpec [file.get "groups"]) := rfl
  rw [Value.callMethod, hmethod]
  show ((Logged.ofExcept (do
    Entity.of .ruleFile [("groups", .list (← groupsOf (← _)))])).map _).result = _
  rw [hfield]
  simp only [bind, Except.bind, hspec, hmake]
  rfl

/-- **A rule file comes back from its plain data and from a resource.** Every rule comes back as a
rule of the same sort at the same place; the groups are written into the resource as they are
written into the file, though resources are written in another style; and the resource that is read
from its plain data gives the rule file. -/
theorem rules_survive (hname : name.fits .text = true) (hspace : space.fits .text = true)
    (hfile : file.fits (.entity .ruleFile) = true) (hmillis : file.isWholeMillis = true)
    (hlabels : labels.fits (.optional (.mapOf .text)) = true) (style : Style) :
    (Entity.read .ruleFile (file.encode style) style).result = .ok file ∧
      ∃ resource, ofRuleFile name space file labels = .ok resource ∧
        (∃ groups, (file.encode style).valueAt? "groups" = some groups ∧
          ((resource.encode style).valueAt? "spec").bind (·.valueAt? "groups") = some groups) ∧
        ∃ back reply, (Entity.read .ruleResource (resource.encode style) style).result = .ok back ∧
          (back.callMethod "to_rule_file" [] []).result = .ok reply ∧ reply.value = file := by
  constructor
  · refine Entity.result_read_encode (by decide) hfile hmillis fun _ => ?_
    exact Value.hasReadableMatchers_of_rules (by decide) hfile
  · have hfits := ruleResourceOf_fits hname hspace hlabels hfile
    have hresource := isWholeMillis_ruleResourceOf hname hspace hlabels hmillis
    refine ⟨ruleResourceOf name space file labels, ofRuleFile_eq hfile hlabels,
      ⟨_, valueAt?_groups hfile style, valueAt?_spec_groups hfile style⟩,
      ruleResourceOf name space file labels, _, ?_, callMethod_to_rule_file hfile, rfl⟩
    -- A resource is written in the camel style, in which matchers are no texts.
    exact Entity.result_read_encode (by decide) hfits hresource fun h => by cases h

/-- A group with rules of both sorts, with an interval and a time for which an alert lasts. -/
theorem rules_survive_mixed :
    let recording := Value.build .recordingRule [("record", .text "job:up:sum"),
      ("expr", .text "sum by (job) (up)")]
    let alerting := Value.build .alertingRule [("alert", .text "Down"), ("expr", .text "up == 0"),
      ("for_", .duration ⟨300000000000⟩), ("labels", .record [("severity", .text "critical")])]
    let file := Value.build .ruleFile [("groups", .list [.build .ruleGroup
      [("name", .text "up"), ("interval", .duration ⟨30000000000⟩),
        ("rules", .list [recording, alerting, recording])]])]
    file.fits (.entity .ruleFile) = true ∧ file.isWholeMillis = true ∧
      (Entity.read .ruleFile (file.encode .snake) .snake).result = .ok file ∧
      ∃ resource back reply, ofRuleFile (.text "up") (.text "monitoring") file .null = .ok resource ∧
        (Entity.read .ruleResource (resource.encode .camel) .camel).result = .ok back ∧
        (back.callMethod "to_rule_file" [] []).result = .ok reply ∧ reply.value = file := by
  intro recording alerting file
  have hfile : file.fits (.entity .ruleFile) = true := by decide
  have hmillis : file.isWholeMillis = true := by decide
  have hname : (Value.text "up").fits .text = true := rfl
  have hspace : (Value.text "monitoring").fits .text = true := rfl
  have hlabels : Value.null.fits (.optional (.mapOf .text)) = true := rfl
  obtain ⟨hread, -⟩ := rules_survive hname hspace hfile hmillis hlabels .snake
  obtain ⟨-, resource, hmake, -, back, reply, hback, hreply, hvalue⟩ :=
    rules_survive hname hspace hfile hmillis hlabels .camel
  exact ⟨hfile, hmillis, hread, resource, back, reply, hmake, hback, hreply, hvalue⟩

end Operator

end MonitoringConfig
