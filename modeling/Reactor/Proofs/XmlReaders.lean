import Mathlib.Data.List.Infix
import Mathlib.Data.List.TakeWhile
import Reactor.Xml.Token

namespace Reactor.Xml

@[simp]
theorem ok_bind {ε α β : Type} (a : α) (f : α → Except ε β) : (Except.ok a >>= f) = f a := rfl

@[simp]
theorem error_bind {ε α β : Type} (e : ε) (f : α → Except ε β) :
    (Except.error e >>= f) = .error e := rfl

@[simp]
theorem pure_eq_ok {ε α : Type} (a : α) : (pure a : Except ε α) = .ok a := rfl

@[simp]
theorem throw_eq_error {ε α : Type} (e : ε) : (throw e : Except ε α) = .error e := rfl

theorem bind_eq_ok_iff {ε α β : Type} {x : Except ε α} {f : α → Except ε β} {b : β} :
    (x >>= f) = .ok b ↔ ∃ a, x = .ok a ∧ f a = .ok b := by
  cases x <;> simp [bind, Except.bind]

/-- What is left is the end of the text, and more text behind it would only have been left. -/
structure IsLocal {α : Type} (read : Reader α) : Prop where
  suffix {cs rest : List Char} {x : α} : read cs = .ok (x, rest) → rest <:+ cs
  cut {cs more rest : List Char} {x : α} :
    read (cs ++ more) = .ok (x, rest ++ more) → read cs = .ok (x, rest)

def ofSkip (skip : List Char → Except Malformed (List Char)) : Reader Unit :=
  fun cs ↦ (skip cs).map ((), ·)

theorem ofSkip_eq_ok_iff {skip : List Char → Except Malformed (List Char)}
    {cs rest : List Char} : ofSkip skip cs = .ok ((), rest) ↔ skip cs = .ok rest := by
  rw [ofSkip]
  cases skip cs <;> simp [Except.map]

theorem startsWith_eq_true_iff {t : String} {cs : List Char} :
    startsWith t cs = true ↔ t.toList <+: cs :=
  List.isPrefixOf_iff_prefix

theorem exists_append_of_suffix {rest more cs : List Char} (h : rest ++ more <:+ cs) :
    ∃ kept, cs = kept ++ more := by
  obtain ⟨taken, rfl⟩ := h
  exact ⟨taken ++ rest, (List.append_assoc ..).symm⟩

namespace IsLocal

variable {α β : Type}

theorem congr {f g : Reader α} (h : ∀ cs result, f cs = .ok result ↔ g cs = .ok result)
    (hg : IsLocal g) : IsLocal f where
  suffix hf := hg.suffix ((h _ _).mp hf)
  cut hf := (h _ _).mpr (hg.cut ((h _ _).mp hf))

theorem pure (x : α) : IsLocal fun cs ↦ .ok (x, cs) where
  suffix h := by
    obtain ⟨rfl, rfl⟩ : x = _ ∧ _ = _ := by simpa using h
    exact List.suffix_refl _
  cut h := by simpa using h

theorem error (e : Malformed) : IsLocal (α := α) fun _ ↦ .error e where
  suffix h := nomatch h
  cut h := nomatch h

theorem ofExcept (x : Except Malformed β) {f : β → Reader α} (h : ∀ y, IsLocal (f y)) :
    IsLocal fun cs ↦ x >>= fun y ↦ f y cs := by
  cases x with
  | error e => exact .error e
  | ok y => exact h y

theorem ite {p : Prop} [Decidable p] {f g : Reader α} (hf : IsLocal f) (hg : IsLocal g) :
    IsLocal fun cs ↦ if p then f cs else g cs := by
  by_cases h : p <;> simpa [h]

theorem bind {f : Reader α} {g : α → Reader β} (hf : IsLocal f) (hg : ∀ x, IsLocal (g x)) :
    IsLocal fun cs ↦ f cs >>= fun p ↦ g p.1 p.2 where
  suffix h := by
    obtain ⟨⟨x, middle⟩, hx, hrest⟩ := bind_eq_ok_iff.mp h
    exact ((hg x).suffix hrest).trans (hf.suffix hx)
  cut h := by
    obtain ⟨⟨x, middle⟩, hx, hrest⟩ := bind_eq_ok_iff.mp h
    obtain ⟨kept, rfl⟩ := exists_append_of_suffix ((hg x).suffix hrest)
    exact bind_eq_ok_iff.mpr ⟨(x, kept), hf.cut hx, (hg x).cut hrest⟩

theorem skip {skip : List Char → Except Malformed (List Char)} {g : Reader β}
    (hskip : IsLocal (ofSkip skip)) (hg : IsLocal g) : IsLocal fun cs ↦ skip cs >>= g := by
  refine congr (fun cs result ↦ ?_) (hskip.bind (g := fun _ ↦ g) fun _ ↦ hg)
  rw [ofSkip]
  cases skip cs <;> rfl

theorem choice {t : String} {f g : Reader α} (hf : IsLocal f) (hg : IsLocal g) :
    IsLocal fun cs ↦ if startsWith t cs then f (cs.drop t.toList.length) else g cs where
  suffix {cs rest x} h := by
    by_cases ht : startsWith t cs
    · rw [if_pos ht] at h
      exact (hf.suffix h).trans (List.drop_suffix _ _)
    · rw [if_neg ht] at h
      exact hg.suffix h
  cut {cs more rest x} h := by
    by_cases ht : startsWith t (cs ++ more)
    · rw [if_pos ht] at h
      have hstart := startsWith_eq_true_iff.mp ht
      -- The mark lies in the part that is kept, as all of `more` is still there after it.
      have hlength : t.toList.length ≤ cs.length := by
        have htaken := hstart.length_le
        have hleft := (hf.suffix h).length_le
        simp only [List.length_append, List.length_drop] at htaken hleft
        omega
      have hkept : startsWith t cs := startsWith_eq_true_iff.mpr
        (List.prefix_of_prefix_length_le hstart (List.prefix_append ..) hlength)
      rw [List.drop_append_of_le_length hlength] at h
      rw [if_pos hkept, hf.cut h]
    · have hkept : ¬ startsWith t cs := by
        rw [startsWith_eq_true_iff] at ht ⊢
        exact fun hstart ↦ ht (hstart.trans (List.prefix_append ..))
      rw [if_neg ht] at h
      rw [if_neg hkept, hg.cut h]

theorem head {f : Reader α} {g : Char → Reader α} (hnil : ∀ result, f [] ≠ .ok result)
    (hcons : ∀ c cs, f (c :: cs) = g c cs) (hg : ∀ c, IsLocal (g c)) : IsLocal f where
  suffix {cs rest x} h := by
    cases cs with
    | nil => exact absurd h (hnil _)
    | cons c cs => exact ((hg c).suffix (hcons c cs ▸ h)).trans (List.suffix_cons ..)
  cut {cs more rest x} h := by
    cases cs with
    | cons c cs => exact (hcons c cs).trans ((hg c).cut ((hcons c (cs ++ more)).symm.trans h))
    | nil =>
      cases more with
      | nil => exact absurd h (hnil _)
      | cons c more =>
        have hlength := ((hg c).suffix ((hcons c more).symm.trans h)).length_le
        simp only [List.length_append, List.length_cons] at hlength
        omega

end IsLocal

section Words

variable {α : Type}

theorem isLocal_word (p : Char → Bool) :
    IsLocal fun cs ↦ .ok (cs.takeWhile p, cs.dropWhile p) where
  suffix h := by
    obtain ⟨-, rfl⟩ : _ ∧ _ = _ := by simpa using h
    exact List.dropWhile_suffix p
  cut {cs more rest word} h := by
    obtain ⟨hword, hrest⟩ : _ ∧ _ := by simpa using h
    have hcs : cs = word ++ rest := by
      have hall := List.takeWhile_append_dropWhile (p := p) (l := cs ++ more)
      rw [hword, hrest, ← List.append_assoc, List.append_left_inj] at hall
      exact hall.symm
    have htaken : ∀ c ∈ word, p c := by
      intro c hc
      rw [← hword] at hc
      exact List.mem_takeWhile_imp hc
    have hstop : rest.takeWhile p = [] ∧ rest.dropWhile p = rest := by
      cases rest with
      | nil => exact ⟨rfl, rfl⟩
      | cons c rest =>
        have hc : ¬ p c := by
          have hhead := List.head_dropWhile_not p (l := cs ++ more) (by simp [hrest])
          simpa [hrest] using hhead
        simp [hc]
    rw [hcs, List.takeWhile_append_of_pos htaken, List.dropWhile_append_of_pos htaken, hstop.1,
      hstop.2, List.append_nil]

theorem IsLocal.spaces {f : Reader α} (hf : IsLocal f) : IsLocal fun cs ↦ f (skipSpaces cs) :=
  (isLocal_word isSpace).bind fun _ ↦ hf

theorem isLocal_expect (t : String) : IsLocal (ofSkip (expect t)) := by
  refine .congr (fun cs result ↦ ?_)
    (.choice (t := t) (.pure ()) (.error (.expected t)))
  by_cases ht : t.toList.isPrefixOf cs <;>
    simp [ofSkip, expect, startsWith, ht, Except.map, ← String.length_toList]

theorem readQName_eq (cs : List Char) :
    readQName cs = readQName (cs.takeWhile isNameChar) >>= fun p ↦
      .ok (p.1, cs.dropWhile isNameChar) := by
  rw [readQName, readQName, List.takeWhile_idem]
  split
  · split <;> rfl
  · split
    · rfl
    · split <;> rfl

theorem isLocal_readQName : IsLocal readQName := by
  have hread := (isLocal_word isNameChar).bind fun word ↦
    .ofExcept (readQName word) fun p ↦ .pure p.1
  refine .congr (fun cs result ↦ ?_) hread
  rw [readQName_eq, ok_bind]

theorem isLocal_readName : IsLocal readName := by
  refine .head (g := fun c cs ↦ if isNameStart c then
    .ok (String.ofList (c :: cs.takeWhile isNameChar), cs.dropWhile isNameChar)
    else .error .name) nofun (fun _ _ ↦ rfl) fun c ↦ .ite ?_ (.error _)
  exact (isLocal_word isNameChar).bind fun word ↦ .pure (String.ofList (c :: word))

theorem isLocal_readQuote : IsLocal readQuote := by
  refine .head (g := fun c cs ↦ if c = '"' then .ok ('"', cs)
    else if c = '\'' then .ok ('\'', cs) else .error (.expected "a quote")) nofun
    (fun c cs ↦ ?_) fun c ↦ .ite (.pure _) (.ite (.pure _) (.error _))
  by_cases hdouble : c = '"'
  · subst hdouble; rfl
  by_cases hsingle : c = '\''
  · subst hsingle; rfl
  rw [if_neg hdouble, if_neg hsingle, readQuote.eq_3 _ (by simp_all) (by simp_all)]

end Words

section Texts

theorem expect_eq_ok_iff {t : String} {cs rest : List Char} :
    expect t cs = .ok rest ↔ cs = t.toList ++ rest := by
  rw [expect, ← String.length_toList]
  by_cases ht : t.toList.isPrefixOf cs
  · rw [if_pos ht]
    obtain ⟨rest', rfl⟩ := List.isPrefixOf_iff_prefix.mp ht
    simp
  · rw [if_neg ht]
    have hne : cs ≠ t.toList ++ rest := by
      rintro rfl
      exact ht (List.isPrefixOf_iff_prefix.mpr (List.prefix_append ..))
    simpa using hne

variable {stop : List Char → Bool}

theorem readUntil_cons_eq_ok_iff {c : Char} {cs text rest : List Char} :
    readUntil stop (c :: cs) = .ok (text, rest) ↔
      isXmlChar c = true ∧ (stop (c :: cs) = true ∧ text = [] ∧ rest = c :: cs ∨
        stop (c :: cs) = false ∧ ∃ text', readUntil stop cs = .ok (text', rest) ∧
          text = c :: text') := by
  rw [readUntil]
  cases isXmlChar c with
  | false => simp
  | true =>
    cases stop (c :: cs) with
    | true => simp [eq_comm]
    | false =>
      simp only [Bool.not_true, Bool.false_eq_true, if_false, bind_eq_ok_iff, false_and, true_and,
        false_or, Prod.exists]
      constructor
      · rintro ⟨text', rest', h, hpair⟩
        obtain ⟨rfl, rfl⟩ : c :: text' = text ∧ rest' = rest := by
          simpa [pure, Except.pure] using hpair
        exact ⟨text', h, rfl⟩
      · rintro ⟨text', h, rfl⟩
        exact ⟨text', rest, h, rfl⟩

theorem append_of_readUntil {cs text rest : List Char}
    (h : readUntil stop cs = .ok (text, rest)) : cs = text ++ rest := by
  induction cs generalizing text with
  | nil => simpa [readUntil, eq_comm] using h
  | cons c cs ih =>
    rcases readUntil_cons_eq_ok_iff.mp h with ⟨-, ⟨-, rfl, rfl⟩ | ⟨-, text', hnext, rfl⟩⟩
    · rfl
    · rw [List.cons_append, ← ih hnext]

theorem isLocal_readUntil (hstop : ∀ c cs more, stop (c :: cs) = stop (c :: more)) :
    IsLocal (readUntil stop) where
  suffix h := by
    rw [append_of_readUntil h]
    exact List.suffix_append ..
  cut {cs more rest text} h := by
    induction cs generalizing text with
    | nil =>
      have hall := append_of_readUntil h
      obtain ⟨rfl, rfl⟩ : text = [] ∧ rest = [] := by
        simpa [← List.append_assoc] using hall
      rfl
    | cons c cs ih =>
      rw [List.cons_append] at h
      rw [readUntil_cons_eq_ok_iff]
      rcases readUntil_cons_eq_ok_iff.mp h with
        ⟨hc, ⟨hhere, rfl, hrest⟩ | ⟨hlater, text', hnext, rfl⟩⟩
      · rw [← List.cons_append, List.append_left_inj] at hrest
        exact ⟨hc, .inl ⟨hstop .. ▸ hhere, rfl, hrest⟩⟩
      · exact ⟨hc, .inr ⟨hstop .. ▸ hlater, text', ih hnext, rfl⟩⟩

def readTo (mark : String) : Reader (List Char) := fun cs ↦ do
  let (text, rest) ← readUntil (startsWith mark) cs
  return (text, ← expect mark rest)

theorem readTo_eq_ok_iff {mark : String} {cs text rest : List Char} :
    readTo mark cs = .ok (text, rest) ↔
      readUntil (startsWith mark) cs = .ok (text, mark.toList ++ rest) := by
  rw [readTo, bind_eq_ok_iff]
  constructor
  · rintro ⟨⟨text', rest'⟩, h, hmark⟩
    obtain ⟨rest'', hrest, hpair⟩ := bind_eq_ok_iff.mp hmark
    obtain ⟨rfl, rfl⟩ : _ ∧ _ := by simpa [pure, Except.pure] using hpair
    rw [h, expect_eq_ok_iff.mp hrest]
  · intro h
    exact ⟨_, h, bind_eq_ok_iff.mpr ⟨rest, expect_eq_ok_iff.mpr rfl, rfl⟩⟩

theorem isLocal_readTo (mark : String) : IsLocal (readTo mark) where
  suffix h := by
    rw [append_of_readUntil (readTo_eq_ok_iff.mp h), ← List.append_assoc]
    exact List.suffix_append ..
  cut {cs more rest text} h := by
    rw [readTo_eq_ok_iff] at h ⊢
    induction cs generalizing text with
    | nil =>
      have hall := append_of_readUntil h
      obtain ⟨⟨rfl, hmark⟩, rfl⟩ : (text = [] ∧ mark.toList = []) ∧ rest = [] := by
        simpa [← List.append_assoc] using hall
      rw [hmark]
      rfl
    | cons c cs ih =>
      rw [List.cons_append] at h
      rw [readUntil_cons_eq_ok_iff]
      rcases readUntil_cons_eq_ok_iff.mp h with
        ⟨hc, ⟨-, rfl, hrest⟩ | ⟨hlater, text', hnext, rfl⟩⟩
      · rw [← List.append_assoc, ← List.cons_append, List.append_left_inj] at hrest
        refine ⟨hc, .inl ⟨?_, rfl, hrest⟩⟩
        exact startsWith_eq_true_iff.mpr (hrest ▸ List.prefix_append ..)
      · refine ⟨hc, .inr ⟨?_, text', ih hnext, rfl⟩⟩
        rw [← Bool.not_eq_true, startsWith_eq_true_iff] at hlater ⊢
        exact fun hstart ↦ hlater (hstart.trans (List.prefix_append ..))

end Texts

section Tokens

theorem isLocal_readRawAttribute : IsLocal readRawAttribute := by
  have hvalue (quote : Char) :
      IsLocal (readUntil fun cs ↦ cs.head? == some quote || cs.head? == some '<') :=
    isLocal_readUntil fun _ _ _ ↦ rfl
  have hread := isLocal_readQName.bind fun name ↦ IsLocal.spaces <|
    .skip (isLocal_expect "=") <| IsLocal.spaces <| isLocal_readQuote.bind fun quote ↦
      (hvalue quote).bind fun value ↦
        .skip (isLocal_expect (String.singleton quote)) (.pure (name, value))
  exact hread

theorem isLocal_readAttributes (fuel : Nat) (attributes : List Attribute) :
    IsLocal (readAttributes fuel attributes) := by
  induction fuel generalizing attributes with
  | zero => exact .error _
  | succ fuel ih =>
    have hmore (blank : List Char) :=
      IsLocal.ite (p := blank = []) (.error (.expected "a space")) <|
      isLocal_readRawAttribute.bind fun p ↦
        IsLocal.ofExcept (resolveAttribute p.2.length p.2) fun value ↦
          ih (⟨p.1, String.ofList value⟩ :: attributes)
    have hread := (isLocal_word isSpace).bind fun blank ↦
      IsLocal.choice (t := "/") (.skip (isLocal_expect ">") (.pure (attributes.reverse, true))) <|
        .choice (t := ">") (.pure (attributes.reverse, false)) (hmore blank)
    refine .congr (fun cs result ↦ ?_) hread
    have hspaced : cs.head?.any isSpace = decide (cs.takeWhile isSpace ≠ []) := by
      cases cs with
      | nil => rfl
      | cons c cs => cases hc : isSpace c <;> simp [hc]
    rw [readAttributes, ok_bind, hspaced, skipSpaces]
    generalize cs.takeWhile isSpace = blank
    generalize cs.dropWhile isSpace = word
    match word with
    | [] => by_cases hblank : blank = [] <;>
        simp [startsWith, readRawAttribute, readQName, isLocalStart, hblank]
    | c :: cs =>
      by_cases hslash : c = '/'
      · subst hslash
        simp [startsWith]
      by_cases hangle : c = '>'
      · subst hangle
        simp [startsWith]
      split
      · contradiction
      · exact absurd (by simp_all) hslash
      · exact absurd (by simp_all) hangle
      · simp [startsWith, Ne.symm hslash, Ne.symm hangle]

theorem isLocal_readComment : IsLocal (ofSkip readComment) := by
  have hread := (isLocal_readTo "-->").bind fun text ↦
    IsLocal.ite (p := readComment.hasDashes text = true) (.error .comment) (.pure ())
  refine .congr (fun cs ⟨(), rest⟩ ↦ ?_) hread
  rw [ofSkip_eq_ok_iff, readComment, readTo]
  cases readUntil (startsWith "-->") cs with
  | error e => simp
  | ok p =>
    cases hmark : expect "-->" p.2 with
    | error e => simp [hmark]
    | ok after => cases hdashes : readComment.hasDashes p.1 <;> simp [hmark, hdashes]

theorem isLocal_readInstruction : IsLocal (ofSkip readInstruction) := by
  have hread := isLocal_readName.bind fun _ ↦
    IsLocal.spaces <| (isLocal_readTo "?>").bind fun _ ↦ .pure ()
  refine .congr (fun cs ⟨(), rest⟩ ↦ ?_) hread
  rw [ofSkip_eq_ok_iff, readInstruction]
  cases readName cs with
  | error e => simp
  | ok p =>
    cases htext : readUntil (startsWith "?>") (skipSpaces p.2) with
    | error e => simp [readTo, htext]
    | ok q => cases hmark : expect "?>" q.2 <;> simp [readTo, htext, hmark]

theorem Token.isLocal_markup (fuel : Nat) : IsLocal fun cs ↦ next fuel ('<' :: cs) := by
  have hcomment := IsLocal.skip isLocal_readComment (.pure comment)
  have hsection := (isLocal_readTo "]]>").bind fun raw ↦ .pure (text (resolveSection [] raw) false)
  have hinstruction := IsLocal.skip isLocal_readInstruction (.pure instruction)
  have hclosing := isLocal_readQName.bind fun name ↦
    .spaces <| .skip (isLocal_expect ">") (.pure (closing name))
  have hopening := isLocal_readQName.bind fun name ↦
    (isLocal_readAttributes fuel []).bind fun p ↦ .pure (opening name p.1 p.2)
  have hread := IsLocal.choice (t := "!")
    (.choice (t := "--") hcomment (.choice (t := "[CDATA[") hsection (.error .documentType))) <|
    .choice (t := "?") (.choice (t := "xml ") (.error .declaration) hinstruction) <|
    .choice (t := "/") hclosing hopening
  refine .congr (fun cs result ↦ ?_) hread
  have hnone {c : Char} (h : ∀ rest, cs = c :: rest → False) : ¬ [c] <+: cs := by
    rintro ⟨rest, rfl⟩
    exact h _ rfl
  generalize hfull : '<' :: cs = full
  fun_cases next fuel full with
  | case1 rest hdashes =>
    obtain rfl : cs = '!' :: rest := by simpa using hfull
    have hstart : ['-', '-'] <+: rest := by simpa [startsWith] using hdashes
    simp [startsWith, hstart]
  | case2 rest hdashes hsection =>
    obtain rfl : cs = '!' :: rest := by simpa using hfull
    have hother : ¬ ['-', '-'] <+: rest := by simpa [startsWith] using hdashes
    have hstart : ['[', 'C', 'D', 'A', 'T', 'A', '['] <+: rest := by
      simpa [startsWith] using hsection
    simp [startsWith, readTo, hother, hstart]
  | case3 rest hdashes hsection =>
    obtain rfl : cs = '!' :: rest := by simpa using hfull
    have hcomment : ¬ ['-', '-'] <+: rest := by simpa [startsWith] using hdashes
    have hcdata : ¬ ['[', 'C', 'D', 'A', 'T', 'A', '['] <+: rest := by
      simpa [startsWith] using hsection
    simp [startsWith, hcomment, hcdata]
  | case4 rest hdeclaration =>
    obtain rfl : cs = '?' :: rest := by simpa using hfull
    have hstart : ['x', 'm', 'l', ' '] <+: rest := by simpa [startsWith] using hdeclaration
    simp [startsWith, hstart]
  | case5 rest hdeclaration =>
    obtain rfl : cs = '?' :: rest := by simpa using hfull
    have hother : ¬ ['x', 'm', 'l', ' '] <+: rest := by simpa [startsWith] using hdeclaration
    simp [startsWith, hother]
  | case6 rest =>
    obtain rfl : cs = '/' :: rest := by simpa using hfull
    simp [startsWith]
  | case7 rest hbang hquestion hslash =>
    obtain rfl : cs = rest := by simpa using hfull
    simp [startsWith, hnone hbang, hnone hquestion, hnone hslash]
  | case8 _ hbang hquestion hslash hangle => exact absurd hfull.symm (hangle cs)

def readText : Reader Token := fun cs ↦ do
  let (raw, rest) ← readUntil (fun cs ↦ cs.head? == some '<') cs
  if hasSectionEnd raw then throw .characterData
  return (.text (← resolveText raw.length [] false raw) (raw.all isSpace), rest)

theorem Token.next_eq (fuel : Nat) (cs : List Char) :
    next fuel cs =
      if startsWith "<" cs then next fuel ('<' :: cs.drop "<".toList.length) else readText cs := by
  by_cases h : ∃ rest, cs = '<' :: rest
  · obtain ⟨rest, rfl⟩ := h
    simp [startsWith]
  · have hnone : ¬ startsWith "<" cs := by
      rw [startsWith_eq_true_iff]
      rintro ⟨rest, rfl⟩
      exact h ⟨rest, rfl⟩
    rw [if_neg hnone, next.eq_5 fuel cs (by simp_all) (by simp_all) (by simp_all) (by simp_all)]
    rfl

theorem isLocal_readText : IsLocal readText := by
  have hraw : IsLocal (readUntil fun cs ↦ cs.head? == some '<') :=
    isLocal_readUntil fun _ _ _ ↦ rfl
  have hread := hraw.bind fun raw ↦
    .ite (p := hasSectionEnd raw) (.error .characterData) <|
      .ofExcept (resolveText raw.length [] false raw) fun content ↦
        .pure (Token.text content (raw.all isSpace))
  exact hread

theorem Token.isLocal_next (fuel : Nat) : IsLocal (next fuel) := by
  refine .congr (fun cs result ↦ ?_) (.choice (t := "<") (isLocal_markup fuel) isLocal_readText)
  rw [next_eq]

end Tokens

end Reactor.Xml
