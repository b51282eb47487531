import Reactor.Proofs.XmlContent
import Reactor.Proofs.XmlPlaces

namespace Reactor.Xml

def Token.unprefixed : Token → Token
  | .opening name _ isEmpty => .opening ⟨"", name.base⟩ [] isEmpty
  | .closing name => .closing ⟨"", name.base⟩
  | .text content isBlank => .text content isBlank
  | .comment => .comment
  | .instruction => .instruction

def localTokens (cs : List Char) : Except Malformed (List Token) := do
  let tokens ← Token.scan (← skipProlog cs)
  return tokens.map fun t ↦ t.token.unprefixed

def Located.unprefixed (t : Located) : Located := ⟨t.token.unprefixed, [], []⟩

def Open.unprefixed (o : Open) : Open := ⟨⟨"", o.name.base⟩, [], [], o.children.map Node.bare⟩

namespace Builder

def unprefixed (b : Builder) : Builder := ⟨b.path.map Open.unprefixed, b.root.map Element.bare⟩

variable {b b' : Builder} {t : Located} {ts : List Located} {node : Node}

theorem add_unprefixed (h : b.add node = .ok b') :
    b.unprefixed.add node.bare = .ok b'.unprefixed := by
  obtain ⟨path, root⟩ := b
  cases path with
  | cons o path =>
    obtain rfl : _ = b' := by simpa [add] using h
    cases node <;> rfl
  | nil =>
    cases node with
    | element e =>
      cases root with
      | some e' => cases h
      | none =>
        obtain rfl : _ = b' := by simpa [add] using h
        rfl
    | text | comment | instruction =>
      obtain rfl : _ = b' := by simpa [add] using h
      rfl

theorem enter_unprefixed (base : String) : Namespace.enter [] ⟨"", base⟩ [] = .ok [] := rfl

theorem scope_unprefixed (path : List Open) :
    ((path.map Open.unprefixed).head?.map Open.scope).getD [] = [] := by
  cases path <;> rfl

theorem step_unprefixed (h : b.step t = .ok b') :
    b.unprefixed.step t.unprefixed = .ok b'.unprefixed := by
  obtain ⟨token, input, rest⟩ := t
  obtain ⟨path, root⟩ := b
  cases token with
  | comment | instruction => exact add_unprefixed h
  | text content isBlank =>
    cases path with
    | nil =>
      cases isBlank with
      | false => cases h
      | true =>
        obtain rfl : _ = b' := by simpa [step] using h
        rfl
    | cons o path =>
      obtain rfl : _ = b' := by simpa [step] using h
      simp [step, Located.unprefixed, Token.unprefixed, unprefixed, Open.unprefixed, bare_addText]
  | opening name attributes isEmpty =>
    simp only [step, unprefixed, Located.unprefixed, Token.unprefixed, scope_unprefixed,
      enter_unprefixed, ok_bind, List.isEmpty_map, Option.isSome_map] at h ⊢
    split at h
    · cases h
    · next hroom =>
      rw [if_neg hroom]
      obtain ⟨scope, -, h⟩ := bind_eq_ok_iff.mp h
      cases isEmpty with
      | true => exact add_unprefixed h
      | false =>
        obtain rfl : _ = b' := by simpa using h
        rfl
  | closing name =>
    cases path with
    | nil => cases h
    | cons o path =>
      simp only [step, unprefixed, Located.unprefixed, Token.unprefixed, Open.unprefixed,
        List.map_cons] at h ⊢
      split at h
      · next hname =>
        rw [if_pos (by rw [hname]), ← List.map_reverse, ← bareAll_eq_map]
        exact add_unprefixed h
      · cases h

theorem run_unprefixed (h : ts.foldlM step b = .ok b') :
    (ts.map Located.unprefixed).foldlM step b.unprefixed = .ok b'.unprefixed := by
  induction ts generalizing b with
  | nil =>
    obtain rfl : b = b' := by simpa using h
    rfl
  | cons t ts ih =>
    rw [List.foldlM_cons] at h
    obtain ⟨middle, hstep, hrun⟩ := bind_eq_ok_iff.mp h
    rw [List.map_cons, List.foldlM_cons, step_unprefixed hstep]
    exact ih hrun

end Builder

/-- Documents whose tokens differ in prefixes and attributes alone have one tree. -/
theorem Element.treeOf_eq_of_localTokens {cs cs' : List Char} {tree tree' : Element}
    (h : treeOf cs = .ok tree) (h' : treeOf cs' = .ok tree')
    (hsame : localTokens cs' = localTokens cs) : tree' = tree := by
  obtain ⟨root, hroot, rfl⟩ := treeOf_eq_ok_iff.mp h
  obtain ⟨root', hroot', rfl⟩ := treeOf_eq_ok_iff.mp h'
  obtain ⟨body, ts, hbody, hts, hrun⟩ := run_of_ofText hroot
  obtain ⟨body', ts', hbody', hts', hrun'⟩ := run_of_ofText hroot'
  have htokens : ts'.map Located.unprefixed = ts.map Located.unprefixed := by
    have hlocal : ts'.map (fun t ↦ t.token.unprefixed) = ts.map fun t ↦ t.token.unprefixed := by
      simpa [localTokens, hbody, hbody', hts, hts'] using hsame
    have hplaces := congrArg (List.map fun token ↦ (⟨token, [], []⟩ : Located)) hlocal
    rw [List.map_map, List.map_map] at hplaces
    exact hplaces
  have hrun := Builder.run_unprefixed hrun
  have hrun' := Builder.run_unprefixed hrun'
  rw [htokens] at hrun'
  have hbuilder := Except.ok.inj (hrun'.symm.trans hrun)
  exact Option.some.inj (congrArg Builder.root hbuilder)

end Reactor.Xml
