import Reactor.Proofs.AscendingSets
import Reactor.Proofs.PropertyLayers
import Reactor.Proofs.TextParts

namespace Reactor

namespace Bindings

def key (space channel : String) : String := space ++ ".bindings." ++ channel ++ ".destination"

theorem key_toList (space channel : String) :
    (key space channel).toList =
      (space ++ ".bindings.").toList ++ (channel.toList ++ ".destination".toList) := by
  simp [key, String.toList_append]

theorem channel?_eq_some_iff {space name channel : String} :
    channel? space name = some channel ↔ channel ≠ "" ∧ name = key space channel := by
  have hkey : name = key space channel ↔
      Text.dropPrefix? (space ++ ".bindings.").toList name.toList =
        some (channel.toList ++ ".destination".toList) := by
    rw [Text.dropPrefix?_eq_some_iff, ← key_toList, String.toList_inj]
  rw [hkey]
  simp only [channel?, Option.bind_eq_some_iff, Option.ite_none_left_eq_some, Option.some.injEq,
    Text.dropSuffix?_eq_some_iff]
  constructor
  · rintro ⟨cs, ⟨middle, hstart, rfl⟩, hempty, rfl⟩
    refine ⟨?_, by simpa using hstart⟩
    intro h
    exact hempty (by simpa using h)
  · rintro ⟨hempty, hstart⟩
    refine ⟨channel.toList, ⟨_, hstart, rfl⟩, ?_, String.ofList_toList⟩
    simpa using hempty

theorem channel?_inj {space name other channel : String} (h : channel? space name = some channel)
    (h' : channel? space other = some channel) : name = other :=
  (channel?_eq_some_iff.mp h).2.trans (channel?_eq_some_iff.mp h').2.symm

def entries (overlay : Properties) (space : String) : List (String × String) :=
  overlay.toList.filterMap fun p ↦ (channel? space p.1).map (·, p.2)

theorem ofOverlay_eq (overlay : Properties) (space : String) :
    ofOverlay overlay space =
      (entries overlay space).foldl (fun m p ↦ m.insert p.1 p.2) ∅ := by
  rw [ofOverlay, Std.TreeMap.foldl_eq_foldl_toList, entries, List.foldl_filterMap]
  congr 1
  funext m p
  cases channel? space p.1 <;> rfl

theorem entries_distinct (overlay : Properties) (space : String) :
    (entries overlay space).reverse.Pairwise (·.1 ≠ ·.1) := by
  rw [List.pairwise_reverse, entries, List.pairwise_filterMap]
  refine Std.TreeMap.distinct_keys_toList.imp ?_
  intro p q hne b hb c hc heq
  obtain ⟨channel, hchannel, rfl⟩ := Option.map_eq_some_iff.mp hb
  obtain ⟨other, hother, rfl⟩ := Option.map_eq_some_iff.mp hc
  obtain rfl : other = channel := heq
  exact hne (Std.LawfulEqCmp.compare_eq_iff_eq.mpr (channel?_inj hchannel hother))

theorem getElem?_ofOverlay {overlay : Properties} {space channel destination : String} :
    (ofOverlay overlay space)[channel]? = some destination ↔
      channel ≠ "" ∧ overlay[key space channel]? = some destination := by
  rw [ofOverlay_eq, Properties.getElem?_foldl_insert, Std.TreeMap.getElem?_emptyc, Option.or_none,
    Properties.lookup_eq_some_iff_mem (entries_distinct overlay space), List.mem_reverse, entries,
    List.mem_filterMap]
  simp only [Option.map_eq_some_iff, Prod.mk.injEq, channel?_eq_some_iff, Prod.exists,
    Std.TreeMap.mem_toList_iff_getElem?_eq_some]
  constructor
  · rintro ⟨name, _, hentry, _, ⟨hempty, rfl⟩, rfl, rfl⟩
    exact ⟨hempty, hentry⟩
  · rintro ⟨hempty, hentry⟩
    exact ⟨_, _, hentry, _, ⟨hempty, rfl⟩, rfl, rfl⟩

variable {b : Bindings}

theorem mem_destinations {destination : String} :
    destination ∈ b.destinations ↔ ∃ channel : String, b[channel]? = some destination := by
  simp only [destinations, Ascending.mem_ofList, List.mem_map, Prod.exists,
    Std.TreeMap.mem_toList_iff_getElem?_eq_some]
  constructor
  · rintro ⟨channel, _, hentry, rfl⟩
    exact ⟨channel, hentry⟩
  · rintro ⟨channel, hentry⟩
    exact ⟨channel, destination, hentry, rfl⟩

theorem input?_isSome_iff :
    b.input?.isSome = true ↔
      ∃ channel destination : String, b[channel]? = some destination ∧
        "-in-".toList <:+: channel.toList := by
  simp only [input?, List.find?_isSome, List.mem_map, Prod.exists, takesInput, Text.occursIn_iff,
    Std.TreeMap.mem_toList_iff_getElem?_eq_some]
  constructor
  · rintro ⟨_, ⟨channel, destination, hentry, rfl⟩, hinput⟩
    exact ⟨channel, destination, hentry, hinput⟩
  · rintro ⟨channel, destination, hentry, hinput⟩
    exact ⟨channel, ⟨channel, destination, hentry, rfl⟩, hinput⟩

end Bindings

namespace BindingSource

def Binds (source : BindingSource) (overlay : Properties) (channel destination : String) : Prop :=
  channel ≠ "" ∧ overlay[Bindings.key source.space channel]? = some destination

def HasInput (source : BindingSource) (overlay : Properties) : Prop :=
  ∃ channel destination, source.Binds overlay channel destination ∧
    "-in-".toList <:+: channel.toList

def containersAt (overlay : Properties) (key : String) : List String :=
  match overlay[key]? with
  | none => []
  | some name => if name = "" then [] else [name]

variable {source : BindingSource} {overlay : Properties}

theorem getElem?_bindings {channel destination : String} :
    (source.bindings overlay)[channel]? = some destination ↔
      source.Binds overlay channel destination :=
  Bindings.getElem?_ofOverlay

theorem mem_destinations_bindings {destination : String} :
    destination ∈ (source.bindings overlay).destinations ↔
      ∃ channel, source.Binds overlay channel destination := by
  simp only [Bindings.mem_destinations, getElem?_bindings]

theorem input?_bindings_isSome_iff :
    (source.bindings overlay).input?.isSome = true ↔ source.HasInput overlay := by
  simp only [Bindings.input?_isSome_iff, getElem?_bindings, HasInput]

theorem filter_isEmpty_toList (overlay : Properties) (key : String) :
    (overlay[key]?.filter (!·.isEmpty)).toList = containersAt overlay key := by
  rw [containersAt]
  cases overlay[key]? with
  | none => rfl
  | some name =>
    by_cases h : name = ""
    · simp [h]
    · simp [h, Option.filter]

theorem checkpoint?_of_input {checkpointKey : String}
    (hkey : source.checkpointKey = some checkpointKey) (hinput : source.HasInput overlay) :
    source.checkpoint? overlay = some (.objectStorage (containersAt overlay checkpointKey)) := by
  obtain ⟨channel, hchannel⟩ := Option.isSome_iff_exists.mp (input?_bindings_isSome_iff.mpr hinput)
  rw [checkpoint?, hkey, Option.bind_some, hchannel, Option.map_some, filter_isEmpty_toList]

theorem checkpoint?_eq_none (h : source.checkpointKey = none ∨ ¬ source.HasInput overlay) :
    source.checkpoint? overlay = none := by
  rcases h with hkey | hinput
  · rw [checkpoint?, hkey, Option.bind_none]
  · rw [← input?_bindings_isSome_iff, Option.not_isSome_iff_eq_none] at hinput
    simp [checkpoint?, hinput]

end BindingSource

open BindingSource in
/-- Bindings are read off the configuration key by key. Their destinations, each once and in
ascending order, are what the queue or the stream of a template requires; a storage is required
with it exactly when there is a key for its container and a bound channel takes input. -/
theorem requirements_of_bindings (overlay : Properties) (source : BindingSource)
    (queue : QueueKind) (stream : StreamKind) (usesAlternateProtocol : Bool) :
    (∀ channel destination, (source.bindings overlay)[channel]? = some destination ↔
      source.Binds overlay channel destination) ∧
    (∀ name other channel, Bindings.channel? source.space name = some channel →
      Bindings.channel? source.space other = some channel → name = other) ∧
    ∃ (names : List String) (storage : List Requirement),
      (RequirementTemplate.messageQueue queue (some source)).requirements overlay =
        .messageQueue queue names :: storage ∧
      (RequirementTemplate.eventStream stream usesAlternateProtocol source).requirements overlay =
        .eventStream stream names usesAlternateProtocol :: storage ∧
      Ascending.IsAscending compare names ∧
      (∀ destination, destination ∈ names ↔
        ∃ channel, source.Binds overlay channel destination) ∧
      (∀ checkpointKey, source.checkpointKey = some checkpointKey → source.HasInput overlay →
        storage = [.objectStorage (containersAt overlay checkpointKey)]) ∧
      (source.checkpointKey = none ∨ ¬ source.HasInput overlay → storage = []) := by
  refine ⟨fun _ _ ↦ getElem?_bindings, fun _ _ _ ↦ Bindings.channel?_inj, ?_⟩
  refine ⟨(source.bindings overlay).destinations, (source.checkpoint? overlay).toList, rfl, rfl,
    Ascending.isAscending_ofList _, fun _ ↦ mem_destinations_bindings, ?_, ?_⟩
  · intro checkpointKey hkey hinput
    rw [checkpoint?_of_input hkey hinput, Option.toList_some]
  · intro h
    rw [checkpoint?_eq_none h, Option.toList_none]

def boundOverlay : Properties :=
  Std.TreeMap.insert
    (Std.TreeMap.insert
      (Std.TreeMap.insert ∅ "ns.bindings.a.destination-in-0.destination" "orders")
      "ns.bindings.publish-out-0.destination" "audit")
    "ns.container" "offsets"

example : (RequirementTemplate.messageQueue .serviceBus
      (some ⟨"ns", some "ns.container"⟩)).requirements boundOverlay =
    [.messageQueue .serviceBus ["audit", "orders"], .objectStorage ["offsets"]] := by
  decide +kernel

end Reactor
