import Reactor.Proofs.XmlScan
import Reactor.Xml.Element

namespace Reactor.Xml

open Namespace (Scope enter)

section Grammar

def addLeaf? (nodes : List Node) : Token → Option (List Node)
  | .text content _ => some (addText content nodes)
  | .comment => some (.comment :: nodes)
  | .instruction => some (.instruction :: nodes)
  | .opening .. | .closing _ => none

/-- The tokens between two tags, and the nodes that they stand for, last one first. -/
inductive Content : Scope → List Located → List Node → Prop
  | nil (s : Scope) : Content s [] []
  | leaf {s : Scope} {ts : List Located} {nodes nodes' : List Node} {t : Located} :
      Content s ts nodes → addLeaf? nodes t.token = some nodes' → Content s (ts ++ [t]) nodes'
  | empty {s inside : Scope} {ts : List Located} {nodes : List Node} {t : Located} {name : QName}
      {attributes : List Attribute} : Content s ts nodes →
      t.token = .opening name attributes true → enter s name attributes = .ok inside →
      Content s (ts ++ [t]) (.element (.mk name.base t.input t.rest []) :: nodes)
  | pair {s inside : Scope} {ts us : List Located} {nodes children : List Node} {t u : Located}
      {name : QName} {attributes : List Attribute} : Content s ts nodes →
      t.token = .opening name attributes false → enter s name attributes = .ok inside →
      Content inside us children → u.token = .closing name →
      Content s (ts ++ (t :: us ++ [u]))
        (.element (.mk name.base t.input u.rest children.reverse) :: nodes)

/-- The tokens of one element: an empty tag, or two tags and what stands between them. -/
inductive Spans (s : Scope) : List Located → Element → Prop
  | empty {inside : Scope} {t : Located} {name : QName} {attributes : List Attribute} :
      t.token = .opening name attributes true → enter s name attributes = .ok inside →
      Spans s [t] (.mk name.base t.input t.rest [])
  | pair {inside : Scope} {us : List Located} {children : List Node} {t u : Located} {name : QName}
      {attributes : List Attribute} :
      t.token = .opening name attributes false → enter s name attributes = .ok inside →
      Content inside us children → u.token = .closing name →
      Spans s (t :: us ++ [u]) (.mk name.base t.input u.rest children.reverse)

def SpansIn (s : Scope) (ts : List Located) (e : Element) : Prop :=
  ∃ us, us <:+: ts ∧ Spans s us e

variable {s : Scope} {ts us : List Located} {nodes nodes' : List Node} {e p : Element}

theorem Spans.last (h : Spans s us e) (ts : List Located) : SpansIn s (ts ++ us) e :=
  ⟨us, (List.suffix_append ..).isInfix, h⟩

theorem SpansIn.mono (h : SpansIn s us e) (hpart : us <:+: ts) : SpansIn s ts e := by
  obtain ⟨own, hown, hspan⟩ := h
  exact ⟨own, hown.trans hpart, hspan⟩

theorem SpansIn.append (h : SpansIn s ts e) (us : List Located) : SpansIn s (ts ++ us) e :=
  h.mono (List.prefix_append ..).isInfix

theorem Content.element (h : Content s ts nodes) (he : Spans s us e) :
    Content s (ts ++ us) (.element e :: nodes) := by
  cases he with
  | empty ht henter => exact h.empty ht henter
  | pair ht henter hinside hu => exact h.pair ht henter hinside hu

theorem head_of_addLeaf? {t : Token} (h : addLeaf? nodes t = some nodes') :
    ∃ node rest, nodes' = node :: rest ∧ node.element? = none := by
  cases t with
  | text content isBlank =>
    obtain rfl := Option.some.inj h
    fun_cases addText content nodes <;> exact ⟨_, _, rfl, rfl⟩
  | comment | instruction =>
    obtain rfl := Option.some.inj h
    exact ⟨_, _, rfl, rfl⟩
  | opening | closing => cases h

theorem Content.eq_nil (h : Content s ts []) : ts = [] := by
  cases h with
  | nil => rfl
  | leaf _ hleaf =>
    obtain ⟨node, rest, hnodes, -⟩ := head_of_addLeaf? hleaf
    cases hnodes

theorem Content.span (h : Content s ts [.element e]) : Spans s ts e := by
  cases h with
  | leaf _ hleaf =>
    obtain ⟨node, rest, hnodes, hnode⟩ := head_of_addLeaf? hleaf
    obtain ⟨rfl, -⟩ := List.cons.inj hnodes
    cases hnode
  | empty hcontent ht henter =>
    rw [hcontent.eq_nil]
    exact .empty ht henter
  | pair hcontent ht henter hinside hu =>
    rw [hcontent.eq_nil]
    exact .pair ht henter hinside hu

theorem mem_of_addLeaf? {t : Token} (h : addLeaf? nodes t = some nodes')
    (he : .element e ∈ nodes') : .element e ∈ nodes := by
  cases t with
  | text content isBlank =>
    obtain rfl := Option.some.inj h
    fun_cases addText content nodes <;> simpa [addText] using he
  | comment | instruction =>
    obtain rfl := Option.some.inj h
    simpa using he
  | opening | closing => cases h

theorem Content.spansIn (h : Content s ts nodes) (he : .element e ∈ nodes) : SpansIn s ts e := by
  induction h with
  | nil s => cases he
  | leaf _ hleaf ih => exact (ih (mem_of_addLeaf? hleaf he)).append _
  | empty _ ht henter ih =>
    rcases List.mem_cons.mp he with he | he
    · obtain rfl := Node.element.inj he
      exact (Spans.empty ht henter).last _
    · exact (ih he).append _
  | pair _ ht henter hinside hu ih _ =>
    rcases List.mem_cons.mp he with he | he
    · obtain rfl := Node.element.inj he
      exact (Spans.pair ht henter hinside hu).last _
    · exact (ih he).append _

theorem Element.mem_elements_iff : p ∈ e.elements ↔ .element p ∈ e.children := by
  rw [elements, List.mem_filterMap]
  constructor
  · rintro ⟨node, hnode, hp⟩
    cases node <;> simp_all [Node.element?]
  · intro hp
    exact ⟨_, hp, rfl⟩

theorem Spans.child (h : Spans s ts e) (hp : p ∈ e.elements) : ∃ inside, SpansIn inside ts p := by
  rw [Element.mem_elements_iff] at hp
  cases h with
  | empty => cases hp
  | pair _ _ hcontent _ =>
    have hchild := hcontent.spansIn (List.mem_reverse.mp hp)
    exact ⟨_, hchild.mono (List.infix_append' [_] ..)⟩

theorem Spans.places {cs last : List Char} (h : Spans s ts e) (hscan : Scans cs ts last) :
    e.input = cs ∧ e.rest = last := by
  cases h with
  | @empty _ t =>
    have hlast : Scans cs ([] ++ [t]) last := hscan
    exact ⟨hscan.input_eq, hlast.rest_eq⟩
  | pair => exact ⟨hscan.input_eq, hscan.rest_eq⟩

end Grammar

namespace Builder

section Accepts

variable {s : Scope} {ts us : List Located} {nodes : List Node} {e : Element}

theorem step_leaf {t : Located} (h : addLeaf? nodes t.token = some nodes') (name : QName)
    (input : List Char) (path : List Open) (root : Option Element) :
    step ⟨⟨name, s, input, nodes⟩ :: path, root⟩ t =
      .ok ⟨⟨name, s, input, nodes'⟩ :: path, root⟩ := by
  rw [step]
  cases ht : t.token with
  | opening | closing => simp [ht, addLeaf?] at h
  | text | comment | instruction =>
    obtain rfl : _ = nodes' := by simpa [ht, addLeaf?] using h
    rfl

theorem eq_of_step_leaf {t : Located} {root : Option Element} {b : Builder}
    (h : ∃ nodes, addLeaf? [] t.token = some nodes) (hstep : step ⟨[], root⟩ t = .ok b) :
    b = ⟨[], root⟩ := by
  obtain ⟨nodes, h⟩ := h
  rw [step] at hstep
  cases ht : t.token with
  | opening | closing => simp [ht, addLeaf?] at h
  | text content isBlank => cases isBlank <;> simp_all
  | comment | instruction => simp_all [add]

theorem run_content (h : Content s ts nodes) (name : QName) (input : List Char) (path : List Open)
    (root : Option Element) :
    ts.foldlM step ⟨⟨name, s, input, []⟩ :: path, root⟩ =
      .ok ⟨⟨name, s, input, nodes⟩ :: path, root⟩ := by
  induction h generalizing name input path with
  | nil s => rfl
  | leaf _ hleaf ih => simp [List.foldlM_append, ih, step_leaf hleaf]
  | empty _ ht henter ih => simp [List.foldlM_append, ih, step, ht, henter, add]
  | pair _ ht henter _ hu ih hinside =>
    simp [List.foldlM_append, ih, step, ht, henter, hinside, hu, add]

theorem run_span (h : Spans [] us e) : us.foldlM step ⟨[], none⟩ = .ok ⟨[], some e⟩ := by
  cases h with
  | empty ht henter => simp [step, ht, henter, add]
  | pair ht henter hcontent hu =>
    simp [List.foldlM_append, step, ht, henter, run_content hcontent, hu, add]

end Accepts

section Derives

def scopeOf (path : List Open) : Scope := (path.head?.map Open.scope).getD []

inductive Pending : List Located → List Open → Prop
  | root (ts : List Located) : Pending ts []
  | push {inside : Scope} {ts us : List Located} {path : List Open} {children : List Node}
      {t : Located} {name : QName} {attributes : List Attribute} : Pending ts path →
      t.token = .opening name attributes false →
      enter (scopeOf path) name attributes = .ok inside → Content inside us children →
      Pending (ts ++ t :: us) (⟨name, inside, t.input, children⟩ :: path)

structure Built (ts : List Located) (b : Builder) : Prop where
  pending : Pending ts b.path
  root : ∀ e ∈ b.root, SpansIn [] ts e

variable {ts us : List Located} {b b' : Builder} {path : List Open} {root : Option Element}
  {e : Element} {t : Located}

theorem built_add (hpending : Pending ts path) (hroot : ∀ e ∈ root, SpansIn [] (ts ++ us) e)
    (he : Spans (scopeOf path) us e) (hadd : add ⟨path, root⟩ (.element e) = .ok b') :
    Built (ts ++ us) b' := by
  cases hpending with
  | root ts =>
    cases root with
    | some e => cases hadd
    | none =>
      obtain rfl : _ = b' := by simpa [add] using hadd
      refine ⟨.root _, ?_⟩
      rintro e ⟨⟩
      exact he.last ts
  | push hpending ht henter hcontent =>
    obtain rfl : _ = b' := by simpa [add] using hadd
    refine ⟨?_, hroot⟩
    rw [List.append_assoc, List.cons_append]
    exact hpending.push ht henter (hcontent.element he)

theorem Built.step (h : Built ts b) (hstep : b.step t = .ok b') : Built (ts ++ [t]) b' := by
  obtain ⟨path, root⟩ := b
  obtain ⟨hpending, hroot⟩ := h
  have hroot' : ∀ e ∈ root, SpansIn [] (ts ++ [t]) e := fun e he ↦ (hroot e he).append [t]
  cases ht : t.token with
  | opening name attributes isEmpty =>
    simp only [Builder.step, ht] at hstep
    split at hstep
    · cases hstep
    · obtain ⟨inside, henter, hstep⟩ := bind_eq_ok_iff.mp hstep
      cases isEmpty with
      | true => exact built_add hpending hroot' (.empty ht henter) hstep
      | false =>
        obtain rfl : _ = b' := by simpa using hstep
        exact ⟨hpending.push ht henter (.nil inside), hroot'⟩
  | closing name =>
    simp only [Builder.step, ht] at hstep
    cases hpending with
    | root => cases hstep
    | @push inside ts us path children u name' attributes hpending hu henter hcontent =>
      dsimp only at hstep
      split at hstep
      · next hname =>
        subst hname
        rw [List.append_assoc] at hroot' ⊢
        exact built_add hpending hroot' (.pair hu henter hcontent ht) hstep
      · cases hstep
  | text | comment | instruction =>
    have hleaf (nodes : List Node) : ∃ nodes', addLeaf? nodes t.token = some nodes' := by
      rw [ht]
      exact ⟨_, rfl⟩
    cases hpending with
    | root ts =>
      obtain rfl := eq_of_step_leaf (hleaf []) hstep
      exact ⟨.root _, hroot'⟩
    | @push inside ts us path children u name attributes hpending hu henter hcontent =>
      obtain ⟨nodes', hnodes⟩ := hleaf children
      obtain rfl : _ = b' := by simpa [step_leaf hnodes] using hstep
      rw [List.append_assoc] at hroot' ⊢
      exact ⟨hpending.push hu henter (hcontent.leaf hnodes), hroot'⟩

theorem Built.run (h : Built ts b) (hrun : us.foldlM Builder.step b = .ok b') :
    Built (ts ++ us) b' := by
  induction us generalizing ts b with
  | nil =>
    obtain rfl : b = b' := by simpa using hrun
    rwa [List.append_nil]
  | cons t us ih =>
    rw [List.foldlM_cons] at hrun
    obtain ⟨middle, hstep, hrun⟩ := bind_eq_ok_iff.mp hrun
    rw [List.append_cons]
    exact ih (h.step hstep) hrun

end Derives

end Builder

theorem Element.run_of_ofText {cs : List Char} {root : Element} (h : ofText cs = .ok root) :
    ∃ body ts, skipProlog cs = .ok body ∧ Token.scan body = .ok ts ∧
      ts.foldlM Builder.step ⟨[], none⟩ = .ok ⟨[], some root⟩ := by
  obtain ⟨body, hbody, h⟩ := bind_eq_ok_iff.mp h
  obtain ⟨ts, hts, h⟩ := bind_eq_ok_iff.mp h
  obtain ⟨⟨path, root'⟩, hrun, h⟩ := bind_eq_ok_iff.mp h
  cases path with
  | cons => cases h
  | nil =>
    cases root' with
    | none => cases h
    | some e =>
      obtain rfl : e = root := by simpa using h
      exact ⟨body, ts, hbody, hts, hrun⟩

theorem Element.span_of_ofText {cs : List Char} {root : Element} (h : ofText cs = .ok root) :
    ∃ body ts, Scans body ts [] ∧ SpansIn [] ts root := by
  obtain ⟨body, ts, -, hts, hrun⟩ := run_of_ofText h
  have hstart : Builder.Built [] ⟨[], none⟩ := ⟨.root [], nofun⟩
  have hroot := (hstart.run hrun).root
  rw [List.nil_append] at hroot
  exact ⟨body, ts, scan_eq_ok_iff.mp hts, hroot root rfl⟩

theorem Element.ofText_of_span {cs : List Char} {us : List Located} {e : Element}
    (hbody : skipProlog cs = .ok cs) (hscan : Scans cs us []) (hspan : Spans [] us e) :
    ofText cs = .ok e := by
  simp [ofText, hbody, scan_eq_ok_iff.mpr hscan, Builder.run_span hspan]

end Reactor.Xml
