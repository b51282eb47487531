import Reactor.Descriptor

namespace Reactor

namespace Coordinate

def fields (c : Coordinate) : List String := c.group :: c.artifact :: c.version.toList

def IsPlain (c : Coordinate) : Prop := ∀ field ∈ c.fields, ':' ∉ field.toList

instance (c : Coordinate) : Decidable c.IsPlain :=
  inferInstanceAs (Decidable (∀ field ∈ c.fields, ':' ∉ field.toList))

theorem IsPlain.cut_text {c : Coordinate} (h : c.IsPlain) :
    Text.cut ':' c.text.toList = c.fields.map String.toList := by
  obtain ⟨group, artifact, version⟩ := c
  have hg : ':' ∉ group.toList := h group (by simp [fields])
  have ha : ':' ∉ artifact.toList := h artifact (by simp [fields])
  cases version with
  | none =>
    have ht : (text ⟨group, artifact, none⟩).toList = group.toList ++ ':' :: artifact.toList := by
      simp [text, toString]
    rw [ht, Text.cut_append hg, Text.cut_of_notMem ha]
    rfl
  | some v =>
    have hv : ':' ∉ v.toList := h v (by simp [fields])
    have ht : (text ⟨group, artifact, some v⟩).toList =
        group.toList ++ ':' :: (artifact.toList ++ ':' :: v.toList) := by simp [text, toString]
    rw [ht, Text.cut_append hg, Text.cut_append ha, Text.cut_of_notMem hv]
    rfl

theorem fields_inj {b c : Coordinate} (h : b.fields = c.fields) : b = c := by
  obtain ⟨bg, ba, bv⟩ := b
  obtain ⟨cg, ca, cv⟩ := c
  simp only [fields, List.cons.injEq] at h
  obtain ⟨rfl, rfl, hv⟩ := h
  cases bv <;> cases cv <;> simp_all

theorem IsPlain.text_inj {b c : Coordinate} (hb : b.IsPlain) (hc : c.IsPlain)
    (h : b.text = c.text) : b = c := by
  have hf : b.fields.map String.toList = c.fields.map String.toList := by
    rw [← hb.cut_text, ← hc.cut_text, h]
  exact fields_inj ((List.map_inj_right fun _ _ ↦ String.toList_inj.mp).mp hf)

def bare (artifact : String) : Coordinate := ⟨"g", artifact, some "1"⟩

end Coordinate

def Descriptor.bare (artifact : String) : Descriptor where
  path := ⟨artifact ++ "/pom.xml"⟩
  coordinate := .bare artifact
  parent := none
  packaging := some "pom"
  modules := []
  dependencies := []
  managed := []
  plugins := []
  properties := ∅

end Reactor
