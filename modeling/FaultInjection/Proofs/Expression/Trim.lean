import FaultInjection.Proofs.Expression.Height

namespace FaultInjection.Expression

theorem toOption_map {ε α β : Type} (f : α → β) (x : Except ε α) :
    (x.map f).toOption = x.toOption.map f := by
  cases x <;> rfl

theorem toOption_bind {ε α β : Type} (x : Except ε α) (f : α → Except ε β) :
    (x.bind f).toOption = x.toOption.bind fun a => (f a).toOption := by
  cases x <;> rfl

theorem toOption_eq_some {ε α : Type} {x : Except ε α} {a : α} (h : x.toOption = some a) :
    x = .ok a := by
  cases x with
  | error e => cases h
  | ok b => rw [Option.some.inj h]

theorem ne_of_isSpace {c d : Char} (h : Text.isSpace c = true) (hd : Text.isSpace d = false) :
    c ≠ d := by
  rintro rfl
  rw [h] at hd
  cases hd

theorem isSymbol_of_isSpace {c : Char} (h : Text.isSpace c = true) : isSymbol c = false := by
  have hall : ("+-*/%^(),;=!><&|".toList.all fun d => !Text.isSpace d) = true := by rfl
  cases hs : isSymbol c with
  | false => rfl
  | true =>
    have hc := List.all_eq_true.1 hall c (by simpa [isSymbol] using hs)
    rw [h] at hc
    cases hc

theorem endRun_append (run : List Char) (ps qs : List Piece) :
    endRun run (ps ++ qs) = endRun run ps ++ qs := by
  unfold endRun
  split
  · rfl
  · rfl

theorem endRun_nil (ps : List Piece) : endRun [] ps = ps := rfl

theorem scan_code {run : List Char} {c : Char} {cs : List Char}
    (hline : ∀ rest, c = '/' → cs = '/' :: rest → False)
    (hblock : ∀ rest, c = '/' → cs = '*' :: rest → False) :
    scan (.code run) (c :: cs) =
      if c = '"' then (scan (.quote []) cs).map (endRun run)
      else if isSymbol c then (scan (.code []) cs).map fun ps => endRun run (.symbol c :: ps)
      else if Text.isSpace c then (scan (.code []) cs).map fun ps => endRun run (.blank :: ps)
      else scan (.code (c :: run)) cs := by
  rw [scan]
  · exact hline
  · exact hblock

theorem scan_space {c : Char} (h : Text.isSpace c = true) (run cs : List Char) :
    scan (.code run) (c :: cs) =
      (scan (.code []) cs).map fun ps => endRun run (.blank :: ps) := by
  have hslash : c ≠ '/' := ne_of_isSpace h (by decide)
  have hquote : c ≠ '"' := ne_of_isSpace h (by decide)
  rw [scan_code (fun _ hc => absurd hc hslash) (fun _ hc => absurd hc hslash)]
  simp [hquote, isSymbol_of_isSpace h, h]

theorem scan_spaces {w : List Char} (hw : ∀ c ∈ w, Text.isSpace c = true) (run : List Char) :
    scan (.code run) w = .ok (endRun run [] ++ List.replicate w.length .blank) := by
  induction w generalizing run with
  | nil => simp [scan]
  | cons c w ih =>
    rw [scan_space (hw c List.mem_cons_self), ih fun d hd => hw d (List.mem_cons_of_mem c hd)]
    simp [Except.map, ← endRun_append, endRun_nil, List.replicate_succ]

theorem scan_lineComment_spaces {w : List Char} (hw : ∀ c ∈ w, Text.isSpace c = true)
    (run : List Char) :
    ∃ n, scan (.lineComment run) w = .ok (endRun run [] ++ List.replicate n .blank) := by
  induction w with
  | nil => exact ⟨0, by simp [scan]⟩
  | cons c w ih =>
    have htail : ∀ d ∈ w, Text.isSpace d = true := fun d hd => hw d (List.mem_cons_of_mem c hd)
    by_cases hc : c = '\n'
    · refine ⟨w.length, ?_⟩
      rw [scan, if_pos hc]
      exact scan_spaces htail run
    · obtain ⟨n, hn⟩ := ih htail
      refine ⟨n, ?_⟩
      rw [scan, if_neg hc]
      exact hn

theorem scan_blockComment_spaces {w : List Char} (hw : ∀ c ∈ w, Text.isSpace c = true)
    (run : List Char) : scan (.blockComment run) w = .error .unmatchedComment := by
  induction w with
  | nil => rw [scan]
  | cons c w ih =>
    have hstar : c ≠ '*' := ne_of_isSpace (hw c List.mem_cons_self) (by decide)
    rw [scan]
    · exact ih fun d hd => hw d (List.mem_cons_of_mem c hd)
    · rintro rest rfl; exact absurd rfl hstar

theorem scan_quote_spaces {w : List Char} (hw : ∀ c ∈ w, Text.isSpace c = true)
    (text : List Char) : scan (.quote text) w = .error .unmatchedQuote := by
  induction w generalizing text with
  | nil => rw [scan]
  | cons c w ih =>
    have hc := hw c List.mem_cons_self
    have hquote : c ≠ '"' := ne_of_isSpace hc (by decide)
    have hslash : c ≠ '\\' := ne_of_isSpace hc (by decide)
    rw [scan]
    · exact ih (fun d hd => hw d (List.mem_cons_of_mem c hd)) _
    all_goals simp [hquote, hslash]

theorem not_starts_append {w : List Char} (hw : ∀ c ∈ w, Text.isSpace c = true) {p : Prop}
    {cs : List Char} {d : Char} (hd : Text.isSpace d = false)
    (h : ∀ rest, p → cs = d :: rest → False) (rest : List Char) (hp : p)
    (hcs : cs ++ w = d :: rest) : False := by
  cases cs with
  | nil =>
    have hmem : d ∈ w := by
      rw [show w = d :: rest from hcs]
      exact List.mem_cons_self
    have hspace := hw d hmem
    rw [hspace] at hd
    cases hd
  | cons c cs => exact h cs hp (by rw [(List.cons.inj hcs).1])

def Padded (x y : Except ReadError (List Piece)) : Prop :=
  ∃ n, x.toOption = y.toOption.map (· ++ List.replicate n .blank)

theorem padded_error (e e' : ReadError) : Padded (.error e) (.error e') := ⟨0, rfl⟩

theorem padded_ok (ps : List Piece) (n : Nat) :
    Padded (.ok (ps ++ List.replicate n .blank)) (.ok ps) := ⟨n, rfl⟩

theorem Padded.map {x y : Except ReadError (List Piece)} (h : Padded x y)
    {f : List Piece → List Piece} (hf : ∀ ps qs, f (ps ++ qs) = f ps ++ qs) :
    Padded (x.map f) (y.map f) := by
  obtain ⟨n, hn⟩ := h
  refine ⟨n, ?_⟩
  rw [toOption_map, toOption_map, hn, Option.map_map, Option.map_map]
  congr 1
  funext ps
  exact hf ps _

theorem endRun_cons_append (run : List Char) (p : Piece) (ps qs : List Piece) :
    endRun run (p :: (ps ++ qs)) = endRun run (p :: ps) ++ qs :=
  endRun_append run (p :: ps) qs

def Trails (w : List Char) (m : Mode) (cs : List Char) : Prop :=
  Padded (scan m (cs ++ w)) (scan m cs)

section

variable {w : List Char} (hw : ∀ c ∈ w, Text.isSpace c = true)
include hw

theorem nil_trails (m : Mode) : Trails w m [] := by
  unfold Trails
  rw [List.nil_append]
  cases m with
  | code run =>
    rw [scan_spaces hw]
    exact padded_ok _ _
  | lineComment run =>
    obtain ⟨n, hn⟩ := scan_lineComment_spaces hw run
    rw [hn]
    exact padded_ok _ _
  | blockComment run =>
    rw [scan_blockComment_spaces hw]
    exact padded_error _ _
  | quote text =>
    rw [scan_quote_spaces hw]
    exact padded_error _ _

variable (c : Char) {cs : List Char} (ih : ∀ r, r <:+ cs → ∀ m, Trails w m r)
include ih

theorem code_trails (run : List Char) : Trails w (.code run) (c :: cs) := by
  have here := ih cs List.suffix_rfl
  by_cases hline : ∃ rest, c = '/' ∧ cs = '/' :: rest
  · obtain ⟨rest, rfl, rfl⟩ := hline
    exact ih rest (List.suffix_cons '/' rest) (.lineComment run)
  · by_cases hblock : ∃ rest, c = '/' ∧ cs = '*' :: rest
    · obtain ⟨rest, rfl, rfl⟩ := hblock
      exact ih rest (List.suffix_cons '*' rest) (.blockComment run)
    · have hline : ∀ rest, c = '/' → cs = '/' :: rest → False :=
        fun rest hc hcs => hline ⟨rest, hc, hcs⟩
      have hblock : ∀ rest, c = '/' → cs = '*' :: rest → False :=
        fun rest hc hcs => hblock ⟨rest, hc, hcs⟩
      unfold Trails
      rw [List.cons_append, scan_code (not_starts_append hw (by decide) hline)
        (not_starts_append hw (by decide) hblock), scan_code hline hblock]
      by_cases hquote : c = '"'
      · rw [if_pos hquote, if_pos hquote]
        exact (here (.quote [])).map (endRun_append run)
      · rw [if_neg hquote, if_neg hquote]
        by_cases hsymbol : isSymbol c = true
        · rw [if_pos hsymbol, if_pos hsymbol]
          exact (here (.code [])).map (endRun_cons_append run _)
        · rw [if_neg hsymbol, if_neg hsymbol]
          by_cases hspace : Text.isSpace c = true
          · rw [if_pos hspace, if_pos hspace]
            exact (here (.code [])).map (endRun_cons_append run _)
          · rw [if_neg hspace, if_neg hspace]
            exact here (.code (c :: run))

omit hw in
theorem lineComment_trails (run : List Char) : Trails w (.lineComment run) (c :: cs) := by
  have here := ih cs List.suffix_rfl
  unfold Trails
  rw [List.cons_append, scan, scan]
  by_cases hc : c = '\n'
  · rw [if_pos hc, if_pos hc]
    exact here (.code run)
  · rw [if_neg hc, if_neg hc]
    exact here (.lineComment run)

theorem blockComment_trails (run : List Char) : Trails w (.blockComment run) (c :: cs) := by
  by_cases hend : ∃ rest, c = '*' ∧ cs = '/' :: rest
  · obtain ⟨rest, rfl, rfl⟩ := hend
    exact ih rest (List.suffix_cons '/' rest) (.code run)
  · have hend : ∀ rest, c = '*' → cs = '/' :: rest → False :=
      fun rest hc hcs => hend ⟨rest, hc, hcs⟩
    unfold Trails
    rw [List.cons_append, scan, scan]
    · exact ih cs List.suffix_rfl (.blockComment run)
    · exact hend
    · exact not_starts_append hw (by decide) hend

theorem escape_trails (text : List Char) : Trails w (.quote text) ('\\' :: cs) := by
  unfold Trails
  cases cs with
  | nil =>
    -- a backslash at the end escapes a space now, which is an error as well
    cases w with
    | nil => exact ⟨0, by rfl⟩
    | cons c w =>
      have hc := hw c List.mem_cons_self
      rw [List.singleton_append, scan]
      · exact padded_error _ _
      · exact ne_of_isSpace hc (by decide)
      · exact ne_of_isSpace hc (by decide)
  | cons d cs =>
    by_cases hquote : d = '"'
    · subst hquote
      exact ih cs (List.suffix_cons '"' cs) (.quote ('"' :: text))
    · by_cases hslash : d = '\\'
      · subst hslash
        exact ih cs (List.suffix_cons '\\' cs) (.quote ('\\' :: text))
      · rw [List.cons_append, List.cons_append, scan, scan]
        · exact padded_error _ _
        · exact hquote
        · exact hslash
        · exact hquote
        · exact hslash

theorem quote_trails (text : List Char) : Trails w (.quote text) (c :: cs) := by
  have here := ih cs List.suffix_rfl
  unfold Trails
  by_cases hquote : c = '"'
  · subst hquote
    rw [List.cons_append, scan, scan]
    exact (here (.code [])).map fun _ _ => rfl
  · by_cases hslash : c = '\\'
    · subst hslash
      exact escape_trails hw ih text
    · rw [List.cons_append, scan, scan]
      · exact here (.quote (c :: text))
      all_goals simp [hquote, hslash]

end

theorem scan_append_spaces {w : List Char} (hw : ∀ c ∈ w, Text.isSpace c = true) (m : Mode)
    (cs : List Char) : Padded (scan m (cs ++ w)) (scan m cs) := by
  have hsuffix : ∀ r, r <:+ cs → ∀ m, Trails w m r := by
    induction cs with
    | nil =>
      intro r hr m
      obtain rfl := List.suffix_nil.1 hr
      exact nil_trails hw m
    | cons c cs ih =>
      intro r hr m
      rcases List.suffix_cons_iff.1 hr with rfl | hr
      · cases m with
        | code run => exact code_trails hw c ih run
        | lineComment run => exact lineComment_trails c ih run
        | blockComment run => exact blockComment_trails hw c ih run
        | quote text => exact quote_trails hw c ih text
      · exact ih r hr m
  exact hsuffix cs List.suffix_rfl m

theorem getElem?_append_blanks (ps : List Piece) (n i : Nat) (c : Char) :
    (ps ++ List.replicate n .blank)[i]? = some (.symbol c) ↔ ps[i]? = some (.symbol c) := by
  rw [List.getElem?_append]
  split
  · rfl
  · next h =>
    have hnone : ps[i]? = none := List.getElem?_eq_none (by omega)
    rw [hnone, List.getElem?_replicate]
    split <;> simp

theorem signedExponent?_blank (s : List Char) (sign : Char) :
    signedExponent? s sign .blank = none := by
  have hf := Decimal.float?_blank (s ++ [sign])
  rw [List.append_assoc] at hf
  unfold signedExponent?
  split
  · change (Decimal.float? (s ++ ([sign] ++ [' ']))).map Token.float = none
    rw [hf]
    rfl
  · rfl

theorem symbolToken_append_blanks (c : Char) (ps : List Piece) (n : Nat) :
    (symbolToken c (ps ++ List.replicate n .blank)).toOption = (symbolToken c ps).toOption := by
  have hfirst := getElem?_append_blanks ps n 0
  have hsecond := getElem?_append_blanks ps n 1 '='
  simp only [← List.head?_eq_getElem?] at hfirst
  unfold symbolToken
  split
  · simp only [hfirst]
  · split
    · rfl
    · rfl
    · rfl
    · rfl
    · simp only [ne_eq, hfirst, hsecond]
      split <;> rfl

theorem tokenAt_append_blanks (p : Piece) (ps : List Piece) (n : Nat) :
    (tokenAt (ps ++ List.replicate n .blank) p).toOption = (tokenAt ps p).toOption := by
  cases p with
  | blank => rfl
  | quoted s => rfl
  | symbol c => simp only [tokenAt, toOption_map, symbolToken_append_blanks]
  | literal s =>
    cases hs : literal? s with
    | some t => simp only [tokenAt, hs]
    | none =>
      match ps with
      | [] => cases n <;> simp [tokenAt, hs, List.replicate_succ]
      | [.symbol c] =>
        -- A sign at the end finds no digits behind it, with blanks or without.
        cases n with
        | zero => rfl
        | succ n => simp [tokenAt, hs, List.replicate_succ, signedExponent?_blank]
      | [.blank] => simp [tokenAt, hs]
      | [.quoted t] => simp [tokenAt, hs]
      | [.literal t] => simp [tokenAt, hs]
      | q :: p :: ps => cases q <;> simp [tokenAt, hs]

theorem tokensOf_blanks (skip n : Nat) : tokensOf skip (List.replicate n .blank) = .ok [] := by
  induction n generalizing skip with
  | zero => cases skip <;> rfl
  | succ n ih =>
    rw [List.replicate_succ]
    cases skip with
    | zero => exact ih 0
    | succ skip => exact ih skip

theorem tokensOf_cons (p : Piece) (ps : List Piece) :
    tokensOf 0 (p :: ps) = (tokenAt ps p).bind fun
      | some (t, taken) => (tokensOf taken ps).map (t :: ·)
      | none => tokensOf 0 ps := by
  rw [tokensOf]
  rfl

theorem tokensOf_append_blanks (skip : Nat) (ps : List Piece) (n : Nat) :
    (tokensOf skip (ps ++ List.replicate n .blank)).toOption = (tokensOf skip ps).toOption := by
  induction ps generalizing skip with
  | nil =>
    rw [List.nil_append, tokensOf_blanks]
    cases skip <;> rfl
  | cons p ps ih =>
    cases skip with
    | succ skip => exact ih skip
    | zero =>
      rw [List.cons_append, tokensOf_cons, tokensOf_cons, toOption_bind, toOption_bind,
        tokenAt_append_blanks]
      congr 1
      funext r
      match r with
      | none => exact ih 0
      | some (t, taken) =>
        change ((tokensOf taken (ps ++ _)).map _).toOption = ((tokensOf taken ps).map _).toOption
        rw [toOption_map, toOption_map, ih taken]

theorem scan_spaces_append {w : List Char} (hw : ∀ c ∈ w, Text.isSpace c = true)
    (cs : List Char) :
    scan (.code []) (w ++ cs) =
      (scan (.code []) cs).map (List.replicate w.length .blank ++ ·) := by
  induction w with
  | nil =>
    rw [List.nil_append]
    cases scan (.code []) cs <;> rfl
  | cons c w ih =>
    rw [List.cons_append, scan_space (hw c List.mem_cons_self),
      ih fun d hd => hw d (List.mem_cons_of_mem c hd)]
    cases scan (.code []) cs <;> rfl

theorem tokensOf_blanks_append (n : Nat) (ps : List Piece) :
    tokensOf 0 (List.replicate n .blank ++ ps) = tokensOf 0 ps := by
  induction n with
  | zero => rfl
  | succ n ih => exact ih

theorem tokens_ofList (cs : List Char) :
    tokens (String.ofList cs) = (scan (.code []) cs).bind (tokensOf 0) := by
  rw [tokens, pieces, String.toList_ofList]
  rfl

theorem tokens_spaces {before after : List Char} (hb : ∀ c ∈ before, Text.isSpace c = true)
    (ha : ∀ c ∈ after, Text.isSpace c = true) (cs : List Char) :
    (tokens (String.ofList (before ++ (cs ++ after)))).toOption =
      (tokens (String.ofList cs)).toOption := by
  obtain ⟨n, hn⟩ := scan_append_spaces ha (.code []) cs
  rw [tokens_ofList, tokens_ofList, scan_spaces_append hb, toOption_bind, toOption_bind,
    toOption_map, hn, Option.map_map, Option.bind_map]
  congr 1
  funext ps
  change (tokensOf 0 (_ ++ (ps ++ _))).toOption = _
  rw [tokensOf_blanks_append, tokensOf_append_blanks]

theorem parse_eq_bind (s : String) : Tree.parse s = (tokens s).bind Tree.ofTokens := rfl

theorem parse_trim (s : String) :
    (Tree.parse (Text.trim s)).toOption = (Tree.parse s).toOption := by
  obtain ⟨before, after, hs, hb, ha⟩ := Text.eq_spaces_append_trimChars s.toList
  have h := tokens_spaces hb ha (Text.trimChars s.toList)
  rw [← hs, String.ofList_toList] at h
  rw [parse_eq_bind, parse_eq_bind, toOption_bind, toOption_bind, h]
  rfl

theorem byteSize_trim_le (s : String) :
    Text.byteSize (Text.trim s).toList ≤ Text.byteSize s.toList := by
  obtain ⟨before, after, hs, -, -⟩ := Text.eq_spaces_append_trimChars s.toList
  have hsize := congrArg Text.byteSize hs
  rw [Text.byteSize_append, Text.byteSize_append, ← Text.toList_trim] at hsize
  omega

theorem compile_eq_ok {s : String} {t : Tree} (hl : Text.byteSize s.toList ≤ maxLength)
    (hp : Tree.parse s = .ok t) (hd : t.depth ≤ maxDepth) : compile s = .ok ⟨s, t⟩ := by
  rw [Text.byteSize_toList] at hl
  rw [Tree.depth_eq_height] at hd
  exact (Outcome.fits hl hp hd).compile_eq

theorem compile_trim {s : String} {e : Expression} (h : compile s = .ok e) :
    compile (Text.trim s) = .ok ⟨Text.trim s, e.tree⟩ := by
  obtain ⟨hl, hp, hh, -⟩ := compile_eq_ok_iff.1 h
  have hparse := parse_trim s
  rw [hp] at hparse
  have hsize := byteSize_trim_le s
  simp only [Text.byteSize_toList] at hsize
  exact (Outcome.fits (by omega) (toOption_eq_some hparse) hh).compile_eq

theorem compile_of_compile_trim {s : String} {e : Expression} (hl : s.utf8ByteSize ≤ 4096)
    (h : compile (Text.trim s) = .ok e) : compile s = .ok ⟨s, e.tree⟩ := by
  obtain ⟨-, hp, hh, -⟩ := compile_eq_ok_iff.1 h
  have hparse := parse_trim s
  rw [hp] at hparse
  exact (Outcome.fits hl (toOption_eq_some hparse.symm) hh).compile_eq

end FaultInjection.Expression
