import Reactor.Proofs.XmlContent
import Reactor.Proofs.XmlPlaces

namespace Reactor.Xml

theorem mapM_congr {α β ε : Type} {f g : α → Except ε β} {xs : List α}
    (h : ∀ x ∈ xs, f x = g x) : xs.mapM f = xs.mapM g := by
  induction xs with
  | nil => rfl
  | cons x xs ih =>
    rw [List.forall_mem_cons] at h
    rw [List.mapM_cons, List.mapM_cons, h.1, ih h.2]

namespace Namespace

/-- The prefixes that the attributes of a tag declare; `xml` cannot be declared anew. -/
def declaredPrefixes (attributes : List Attribute) : List String :=
  (attributes.filter fun a ↦ a.name.pre = "xmlns" ∧ a.name.base ≠ "xml").map (·.name.base)

def plainAttributes (attributes : List Attribute) : List Attribute :=
  attributes.filter fun a ↦ a.name.pre ≠ "xmlns" ∧ a.name.base ≠ "xmlns"

def usedPrefixes (name : QName) (attributes : List Attribute) : List String :=
  (name.pre :: ((plainAttributes attributes).map (·.name.pre)).filter (· ≠ "xml")).filter (· ≠ "")

variable {front back scope s declared : Scope} {attributes others : List Attribute} {name : QName}

theorem declarations_spec (h : declarations attributes declared = .ok (s, others)) :
    others = plainAttributes attributes ∧
      ∀ p, (p ∈ declaredPrefixes attributes ∨ some p ∈ declared.map Prod.fst) →
        some p ∈ s.map Prod.fst := by
  fun_induction declarations attributes declared generalizing s others with
  | case1 declared =>
    obtain ⟨rfl, rfl⟩ : declared = s ∧ [] = others := by simpa using h
    exact ⟨rfl, fun p hp ↦ by simpa [declaredPrefixes] using hp⟩
  | case2 | case3 | case4 | case7 => cases h
  | case5 a rest declared hpre hne hsame hnew hxml ih =>
    have hbase : a.name.base = "xml" := by simp_all
    obtain ⟨hothers, hdeclared⟩ := ih h
    refine ⟨by simpa [plainAttributes, hpre] using hothers, fun p hp ↦ hdeclared p ?_⟩
    simpa [declaredPrefixes, hbase] using hp
  | case6 a rest declared hpre hne hsame hnew hxml ih =>
    obtain ⟨hothers, hdeclared⟩ := ih h
    refine ⟨by simpa [plainAttributes, hpre] using hothers, fun p hp ↦ hdeclared p ?_⟩
    have hbase : a.name.base ≠ "xml" := by simp_all
    have hnamed : declaredPrefixes (a :: rest) = a.name.base :: declaredPrefixes rest := by
      simp [declaredPrefixes, hpre, hbase]
    simp only [hnamed, List.mem_cons, List.map_append, List.map_cons, List.map_nil, List.mem_append,
      Option.some.injEq, List.not_mem_nil, or_false] at hp ⊢
    tauto
  | case8 a rest declared hpre hbase hne ih =>
    obtain ⟨hothers, hdeclared⟩ := ih h
    refine ⟨by simpa [plainAttributes, hpre, hbase] using hothers, fun p hp ↦ hdeclared p ?_⟩
    simpa [declaredPrefixes, hpre] using hp
  | case9 a rest declared hpre hbase ih =>
    obtain ⟨⟨scope, plain⟩, hrest, h⟩ := bind_eq_ok_iff.mp h
    obtain ⟨rfl, rfl⟩ : scope = s ∧ a :: plain = others := by simpa using h
    obtain ⟨hothers, hdeclared⟩ := ih hrest
    refine ⟨by simp [plainAttributes, hpre, hbase, hothers], fun p hp ↦ hdeclared p ?_⟩
    simpa [declaredPrefixes, hpre] using hp

theorem resolve_append {pre : String} (hknown : some pre ∈ front.map Prod.fst) (hpre : pre ≠ "") :
    resolve (front ++ back) pre = resolve front pre := by
  have hfind : (front.find? fun d ↦ d.1 == some pre).isSome := by
    obtain ⟨d, hd, hname⟩ := List.mem_map.mp hknown
    exact List.find?_isSome.mpr ⟨d, hd, by simp [hname]⟩
  obtain ⟨d, hd⟩ := Option.isSome_iff_exists.mp hfind
  have hempty : pre.isEmpty = false := by simpa using hpre
  simp only [resolve, hempty, Bool.false_eq_true, if_false]
  rw [List.find?_append, hd]
  rfl

theorem exists_resolve_default (scope : Scope) {pre : String} (hpre : pre = "") :
    ∃ uri, resolve scope pre = .ok uri := by
  rw [resolve, hpre]
  cases scope.find? _ with
  | none => exact ⟨none, rfl⟩
  | some d => exact ⟨some d.2, rfl⟩

theorem resolveAttribute_append
    (h : ∀ p ∈ usedPrefixes name attributes, some p ∈ front.map Prod.fst)
    {a : Attribute} (ha : a ∈ plainAttributes attributes) :
    resolveAttribute (front ++ back) a.name = resolveAttribute front a.name := by
  rw [resolveAttribute, resolveAttribute]
  by_cases hxml : a.name.pre = "xml"
  · simp [hxml]
  by_cases hempty : a.name.pre = ""
  · simp [hempty]
  have hused : a.name.pre ∈ usedPrefixes name attributes := by
    simp only [usedPrefixes, List.mem_filter, List.mem_cons, List.mem_map]
    exact ⟨.inr ⟨⟨a, ha, rfl⟩, by simpa using hxml⟩, by simpa using hempty⟩
  rw [resolve_append (h _ hused) hempty]

theorem enter_eq_ok_iff {outer : Scope} :
    enter outer name attributes = .ok s ↔ name.pre ≠ "xmlns" ∧ ∃ declared others names uri,
      declarations attributes [] = .ok (declared, others) ∧
      others.mapM (resolveAttribute (declared ++ outer) ·.name) = .ok names ∧ names.Nodup ∧
      resolve (declared ++ outer) name.pre = .ok uri ∧ declared ++ outer = s := by
  rw [enter]
  by_cases hpre : name.pre = "xmlns"
  · simp [hpre]
  cases hdeclared : declarations attributes [] with
  | error e => simp [hpre]
  | ok p =>
    obtain ⟨declared, others⟩ := p
    cases hnames : others.mapM (resolveAttribute (declared ++ outer) ·.name) with
    | error e => simp [hpre, hnames]
    | ok names =>
      by_cases hnodup : names.Nodup
      · cases huri : resolve (declared ++ outer) name.pre <;> simp [hpre, hnames, hnodup, huri]
      · simp [hpre, hnames, hnodup]

theorem enter_append (h : enter (front ++ back) name attributes = .ok s)
    (hused : ∀ p ∈ usedPrefixes name attributes,
      p ∈ declaredPrefixes attributes ∨ some p ∈ front.map Prod.fst) :
    ∃ inside, enter front name attributes = .ok inside ∧ s = inside ++ back ∧
      ∀ p, (p ∈ declaredPrefixes attributes ∨ some p ∈ front.map Prod.fst) →
        some p ∈ inside.map Prod.fst := by
  obtain ⟨hpre, declared, others, names, uri, hdeclared, hnames, hnodup, huri, rfl⟩ :=
    enter_eq_ok_iff.mp h
  obtain ⟨rfl, hinside⟩ := declarations_spec hdeclared
  have hknown (p : String) (hp : p ∈ declaredPrefixes attributes ∨ some p ∈ front.map Prod.fst) :
      some p ∈ (declared ++ front).map Prod.fst := by
    rw [List.map_append, List.mem_append]
    exact hp.imp (fun hp ↦ hinside p (.inl hp)) id
  rw [← List.append_assoc] at hnames huri
  rw [mapM_congr fun a ha ↦ resolveAttribute_append (fun p hp ↦ hknown p (hused p hp)) ha] at hnames
  obtain ⟨uri', huri'⟩ : ∃ uri', resolve (declared ++ front) name.pre = .ok uri' := by
    by_cases hempty : name.pre = ""
    · exact exists_resolve_default _ hempty
    · have hname : name.pre ∈ usedPrefixes name attributes := by simp [usedPrefixes, hempty]
      exact ⟨uri, (resolve_append (hknown _ (hused _ hname)) hempty).symm.trans huri⟩
  refine ⟨declared ++ front, ?_, (List.append_assoc ..).symm, hknown⟩
  exact enter_eq_ok_iff.mpr ⟨hpre, declared, _, names, uri', hdeclared, hnames, hnodup, huri', rfl⟩

end Namespace

open Namespace

/-- Prefixes in force after a token, one list for each open tag, if the token uses no others. -/
def checkPrefixes (known : List (List String)) : Token → Option (List (List String))
  | .opening name attributes isEmpty =>
    let inside := declaredPrefixes attributes ++ known.head?.getD []
    if (usedPrefixes name attributes).all inside.contains then
      some (if isEmpty then known else inside :: known)
    else none
  | .closing _ => some known.tail
  | _ => some known

def DeclaresPrefixes (ts : List Token) : Prop := (ts.foldlM checkPrefixes []).isSome

instance (ts : List Token) : Decidable (DeclaresPrefixes ts) := inferInstanceAs (Decidable (_ = _))

def Covers (scope : Scope) (known : List (List String)) : Prop :=
  ∀ p ∈ known.head?.getD [], some p ∈ scope.map Prod.fst

section Restriction

variable {front back s inside : Scope} {known after : List (List String)} {t : Located}
  {ts us : List Located} {nodes nodes' : List Node} {name : QName} {attributes : List Attribute}
  {isEmpty : Bool}

theorem restrict_enter (henter : enter (front ++ back) name attributes = .ok s)
    (hknown : Covers front known)
    (hcheck : checkPrefixes known (.opening name attributes isEmpty) = some after) :
    ∃ inside, enter front name attributes = .ok inside ∧ s = inside ++ back ∧
      (isEmpty = true → after = known) ∧
      (isEmpty = false → after.tail = known ∧ Covers inside after) := by
  rw [checkPrefixes] at hcheck
  split at hcheck
  · next hused =>
    obtain ⟨inside, hinside, hs, hdeclared⟩ := enter_append henter fun p hp ↦ by
      have hmem := List.all_eq_true.mp hused p hp
      rw [List.contains_iff_mem, List.mem_append] at hmem
      exact hmem.imp id (hknown p)
    refine ⟨inside, hinside, hs, ?_, ?_⟩
    · rintro rfl
      simpa [eq_comm] using hcheck
    · rintro rfl
      obtain rfl : _ = after := by simpa using hcheck
      refine ⟨rfl, fun p hp ↦ hdeclared p ?_⟩
      rw [List.head?_cons, Option.getD_some, List.mem_append] at hp
      exact hp.imp id (hknown p)
  · cases hcheck

theorem checkPrefixes_leaf (h : addLeaf? nodes t.token = some nodes') :
    checkPrefixes known t.token = some known := by
  cases ht : t.token <;> simp_all [addLeaf?, checkPrefixes]

theorem map_addLeaf? (nodes : List Node) (t : Token) :
    (addLeaf? nodes t).map (List.map Node.bare) = addLeaf? (nodes.map Node.bare) t := by
  cases t <;> simp [addLeaf?, bare_addText, Node.bare]

theorem exists_addLeaf? {others : List Node} {t : Token} (h : addLeaf? nodes t = some nodes')
    (hbare : others.map Node.bare = nodes.map Node.bare) :
    ∃ others', addLeaf? others t = some others' ∧
      others'.map Node.bare = nodes'.map Node.bare := by
  have hmap : (addLeaf? others t).map (List.map Node.bare) = some (nodes'.map Node.bare) := by
    rw [map_addLeaf?, hbare, ← map_addLeaf?, h, Option.map_some]
  exact Option.map_eq_some_iff.mp hmap

theorem check_append {ts us : List Token} :
    (ts ++ us).foldlM checkPrefixes known = some after ↔
      ∃ middle, ts.foldlM checkPrefixes known = some middle ∧
        us.foldlM checkPrefixes middle = some after := by
  rw [List.foldlM_append, Option.bind_eq_bind, Option.bind_eq_some_iff]

theorem check_cons {t : Token} {ts : List Token} :
    (t :: ts).foldlM checkPrefixes known = some after ↔ ∃ middle,
      checkPrefixes known t = some middle ∧ ts.foldlM checkPrefixes middle = some after := by
  rw [List.foldlM_cons, Option.bind_eq_bind, Option.bind_eq_some_iff]

theorem split_last
    (hcheck : ((ts ++ [t]).map Located.token).foldlM checkPrefixes known = some after)
    (hsame : us.map Located.token = (ts ++ [t]).map Located.token) :
    ∃ vs v middle, us = vs ++ [v] ∧ vs.map Located.token = ts.map Located.token ∧
      v.token = t.token ∧ (ts.map Located.token).foldlM checkPrefixes known = some middle ∧
      checkPrefixes middle t.token = some after := by
  rw [List.map_append] at hcheck hsame
  obtain ⟨middle, hstart, hend⟩ := check_append.mp hcheck
  obtain ⟨final, hlast, hfinal⟩ := check_cons.mp hend
  obtain rfl : final = after := by simpa using hfinal
  obtain ⟨vs, ws, rfl, hvs, hws⟩ := List.map_eq_append_iff.mp hsame
  obtain ⟨v, rfl, hv⟩ := List.map_eq_singleton_iff.mp hws
  exact ⟨vs, v, middle, rfl, hvs, hv, hstart, hlast⟩

/-- Where the tags of a content declare all its prefixes, the scope around it may be left out. -/
theorem restrict_content (h : Content s ts nodes) (hs : s = front ++ back)
    (hknown : Covers front known)
    (hcheck : (ts.map Located.token).foldlM checkPrefixes known = some after)
    (hsame : us.map Located.token = ts.map Located.token) :
    after = known ∧ ∃ nodes', Content front us nodes' ∧
      nodes'.map Node.bare = nodes.map Node.bare := by
  -- Each content leaves the stack of prefixes as it finds it, so that a closing tag takes off what
  -- the opening tag before it has put there.
  induction h generalizing front known after us with
  | nil s =>
    obtain rfl : us = [] := by simpa using hsame
    exact ⟨by simpa [eq_comm] using hcheck, [], .nil front, rfl⟩
  | leaf _ hleaf ih =>
    obtain ⟨vs, v, middle, rfl, hvs, hv, hstart, hlast⟩ := split_last hcheck hsame
    obtain ⟨rfl, nodes', hnodes', hbare⟩ := ih hs hknown hstart hvs
    obtain ⟨others, hadd, hothers⟩ := exists_addLeaf? hleaf hbare
    rw [← hv] at hadd
    refine ⟨?_, others, hnodes'.leaf hadd, hothers⟩
    simpa [checkPrefixes_leaf hleaf, eq_comm] using hlast
  | empty _ ht henter ih =>
    obtain ⟨vs, v, middle, rfl, hvs, hv, hstart, htag⟩ := split_last hcheck hsame
    obtain ⟨rfl, nodes', hnodes', hbare⟩ := ih hs hknown hstart hvs
    subst hs
    obtain ⟨inside, hinside, -, hafter, -⟩ := restrict_enter henter hknown (ht ▸ htag)
    refine ⟨hafter rfl, _, hnodes'.empty (hv.trans ht) hinside, ?_⟩
    simp [Node.bare, Element.bare, hbare]
  | pair _ ht henter _ hu ih ihinside =>
    rw [List.map_append, List.cons_append, List.map_cons] at hcheck hsame
    obtain ⟨middle, hstart, hend⟩ := check_append.mp hcheck
    obtain ⟨opened, htag, hrest⟩ := check_cons.mp hend
    obtain ⟨us, vs, rfl, hus, hvs⟩ := List.map_eq_append_iff.mp hsame
    obtain ⟨v, ws, rfl, hv, hws⟩ := List.map_eq_cons_iff.mp hvs
    obtain ⟨inner, w, closed, rfl, hinner, hw, hchildren, hclosing⟩ := split_last hrest hws
    obtain ⟨rfl, nodes', hnodes', hbare⟩ := ih hs hknown hstart hus
    subst hs
    obtain ⟨inside, hinside, hscope, -, hopened⟩ := restrict_enter henter hknown (ht ▸ htag)
    obtain ⟨htail, hcovers⟩ := hopened rfl
    obtain ⟨rfl, children', hchildren', hbare'⟩ := ihinside hscope hcovers hchildren hinner
    refine ⟨?_, _, hnodes'.pair (hv.trans ht) hinside hchildren' (hw.trans hu), ?_⟩
    · rw [← htail]
      simpa [hu, checkPrefixes, eq_comm] using hclosing
    · simp [Node.bare, Element.bare, hbare, bareAll_eq_map, hbare']

theorem Spans.alone {e : Element} (h : Spans s ts e)
    (hdeclares : DeclaresPrefixes (ts.map Located.token))
    (hsame : us.map Located.token = ts.map Located.token) :
    ∃ e', Spans [] us e' ∧ e'.bare = e.bare := by
  have hcontent : Content s ts [.element e] := (Content.nil s).element h
  obtain ⟨after, hcheck⟩ := Option.isSome_iff_exists.mp hdeclares
  have hnone : Covers [] [] := fun p hp ↦ nomatch hp
  obtain ⟨-, nodes', hnodes', hbare⟩ := restrict_content hcontent rfl hnone hcheck hsame
  obtain ⟨node, rfl, hnode⟩ := List.map_eq_singleton_iff.mp hbare
  cases node with
  | element e' => exact ⟨e', hnodes'.span, Node.element.inj hnode⟩
  | text | comment | instruction => cases hnode

end Restriction

section Alone

variable {cs rest : List Char} {s : Scope} {ts us : List Located} {e : Element}

theorem skipProlog_of_opening {fuel : Nat} {name : QName} {attributes : List Attribute}
    {isEmpty : Bool} (h : Token.next fuel cs = .ok (.opening name attributes isEmpty, rest)) :
    skipProlog cs = .ok cs := by
  rw [Token.next.eq_def] at h
  split at h
  case h_4 cs hbang hquestion hslash =>
    have hprolog : startsWith "<?xml " ('<' :: cs) = false := by
      rw [← Bool.not_eq_true, startsWith_eq_true_iff]
      rintro ⟨more, hmore⟩
      exact hquestion _ (List.cons.inj hmore).2.symm
    simp [skipProlog, byteOrderMark, hprolog]
  · split at h
    · simp [bind_eq_ok_iff] at h
    split at h <;> simp [bind_eq_ok_iff] at h
  · split at h <;> simp [bind_eq_ok_iff] at h
  · simp [bind_eq_ok_iff] at h
  · obtain ⟨⟨raw, afterRaw⟩, -, h⟩ := bind_eq_ok_iff.mp h
    cases hend : hasSectionEnd raw <;> simp [hend, bind_eq_ok_iff] at h

theorem Spans.skipProlog {last : List Char} (h : Spans s us e) (hscan : Scans cs us last) :
    skipProlog cs = .ok cs := by
  cases h with
  | empty ht henter =>
    obtain _ | ⟨hnext, -⟩ := hscan
    exact skipProlog_of_opening (hnext.trans (by rw [← ht]))
  | pair ht henter hcontent hu =>
    obtain _ | ⟨hnext, -⟩ := hscan
    exact skipProlog_of_opening (hnext.trans (by rw [← ht]))

namespace Element

def StandsAlone (e : Element) : Prop :=
  ∀ ts, Token.scan e.source = .ok ts → DeclaresPrefixes (ts.map Located.token)

instance (e : Element) : Decidable e.StandsAlone :=
  match h : Token.scan e.source with
  | .error _ => .isTrue fun _ hts ↦ nomatch h.symm.trans hts
  | .ok ts => decidable_of_iff (DeclaresPrefixes (ts.map Located.token))
      ⟨fun hts _ hus ↦ Except.ok.inj (h.symm.trans hus) ▸ hts, fun hall ↦ hall ts h⟩

theorem source_append {cs last : List Char} (hinput : e.input = cs ++ last)
    (hrest : e.rest = last) : e.source = cs := by
  simp [source, hinput, hrest]

theorem exists_alone (hscan : Scans cs ts []) (h : SpansIn s ts e) (halone : e.StandsAlone) :
    ∃ e', ofText e.source = .ok e' ∧ e'.bare = e.bare := by
  obtain ⟨us, ⟨before, after, rfl⟩, hspan⟩ := h
  obtain ⟨last, hscan, -⟩ := Scans.append_iff.mp hscan
  obtain ⟨first, -, hscan⟩ := Scans.append_iff.mp hscan
  obtain ⟨hinput, hrest⟩ := hspan.places hscan
  obtain ⟨own, rfl⟩ := hscan.suffix
  have hsource := source_append hinput hrest
  have hwhole : Scans (own ++ last) us ([] ++ last) := hscan
  obtain ⟨vs, hsame, hown⟩ := hwhole.cut
  rw [StandsAlone, hsource] at halone
  have hdeclares := halone vs (scan_eq_ok_iff.mpr hown)
  rw [hsame] at hdeclares
  obtain ⟨e', hspan', hbare⟩ := hspan.alone hdeclares hsame
  refine ⟨e', ?_, hbare⟩
  rw [hsource]
  exact ofText_of_span (hspan'.skipProlog hown) hown hspan'

end Element

end Alone

end Reactor.Xml
