/-
Reading back environment descriptors: whatever a descriptor holds, it is read as itself from its arranged members.
-/
import ProcessBuild.Environment.Basic
import ProcessBuild.Proofs.Json.Fields

namespace ProcessBuild

open Decode Json

def Addons.fields (a : Addons) : List (String × Option Json) :=
  [("monitoring", some (.bool a.monitoring)), ("tracing", some (.bool a.tracing)),
    ("explainability", some (.bool a.explainability))]

def Environment.fields (e : Environment) : List (String × Option Json) :=
  [("capabilities", some (ofStrings e.capabilities.toList)), ("addons", some e.addons.toJson),
    ("generateRest", e.generateRest.map .bool), ("liveReload", some (.bool e.liveReload))]

theorem Environment.toJson_eq (e : Environment) : e.toJson = .object (present e.fields) := by
  rw [toJson, present_toList]
  show Json.object (present [("capabilities", some _), ("addons", some _)] ++ present [_] ++ present [("liveReload", some _)]) = _
  rw [← present_append, ← present_append]
  rfl

section ReadBack

variable {f : Json → Json} (arranges : Arranges f)

include arranges

theorem Addons.read_toJson (a : Addons) : Addons.ofJson (f a.toJson) = .ok a := by
  obtain ⟨ms, arranged, found⟩ := arranges.object_present a.fields (by simp [fields])
  rw [show a.toJson = .object (present a.fields) from rfl, arranged, Addons.ofJson]
  obtain ⟨monitoring, tracing, explainability⟩ := a
  simp only [fields, List.forall_mem_cons] at found
  obtain ⟨hasMonitoring, hasTracing, hasExplainability, -⟩ := found
  rw [member_read hasExplainability (bool_read arranges explainability),
    member_read hasMonitoring (bool_read arranges monitoring), member_read hasTracing (bool_read arranges tracing)]
  rfl

/-- **An environment descriptor** is read back. -/
theorem Environment.read_toJson (e : Environment) : Environment.ofJson (f e.toJson) = .ok e := by
  obtain ⟨ms, arranged, found⟩ := arranges.object_present e.fields (by simp [fields])
  rw [toJson_eq, arranged, Environment.ofJson]
  obtain ⟨capabilities, addons, generateRest, liveReload⟩ := e
  simp only [fields, List.forall_mem_cons] at found
  obtain ⟨hasCapabilities, hasAddons, hasRest, hasReload, -⟩ := found
  obtain ⟨_, restRead, rfl⟩ := member_optional hasRest (optional_bool_read arranges)
  rw [member_read hasAddons (addons.read_toJson arranges), member_read hasCapabilities (nameSet_read arranges capabilities),
    restRead, member_read hasReload (bool_read arranges liveReload)]
  rfl

end ReadBack

end ProcessBuild
