/-
  FixedCapacity.Proofs.Text.Segments — every byte sequence is cut into segments in one way.

  Characters are the Unicode scalar values, so no form is overlong, a surrogate's, or above U+10FFFF.
  An invalid chunk (`Chunk`) is the longest row of bytes that begins a form and does not finish it, or
  else a byte that begins none. A `Cut` takes bytes apart into forms and such chunks and leaves nothing
  out.

  The reader goes by ranges of bytes, and stops where no form goes on (`front_read`). So its segments
  are a cut (`cut_segments`), and there is no other (`Cut.unique`): what it reads throughout are exactly
  the forms of texts (`decode?_eq_some_iff`), and elsewhere one replacement stands for each chunk
  (`lossy_eq`).
-/

import FixedCapacity.Proofs.Text.Form

namespace FixedCapacity.Text

open String (utf8EncodeChar)

/-! ## Cuts -/

/-- Bytes with which the form of some character begins. -/
def Begins (bytes : List UInt8) : Prop := ∃ c, bytes <+: utf8EncodeChar c

/-- Bytes with which the form of some character begins, and more of it is to come. -/
def Unfinished (bytes : List UInt8) : Prop := ∃ c, bytes <+: utf8EncodeChar c ∧ bytes ≠ utf8EncodeChar c

/-- An invalid chunk in front of other bytes. -/
inductive Chunk : List UInt8 → List UInt8 → Prop
  /-- The longest row of bytes from here with which a form begins. It does not finish one. -/
  | broken {chunk rest : List UInt8} (hne : chunk ≠ []) (hunfinished : Unfinished chunk)
      (hlongest : ∀ longer, longer <+: chunk ++ rest → chunk.length < longer.length → ¬ Begins longer) :
      Chunk chunk rest
  /-- A byte that begins no form. -/
  | stray {b : UInt8} {rest : List UInt8} (h : ¬ Begins [b]) : Chunk [b] rest

/-- What stands at the front of bytes, and what is behind it: a form or an invalid chunk. -/
inductive Front : List UInt8 → Segment → List UInt8 → Prop
  | char (c : Char) (rest : List UInt8) : Front (utf8EncodeChar c ++ rest) (.char c) rest
  | invalid {chunk rest : List UInt8} (h : Chunk chunk rest) : Front (chunk ++ rest) (.invalid chunk) rest

/-- Bytes taken apart into forms and invalid chunks, with nothing left out. -/
inductive Cut : List UInt8 → List Segment → Prop
  | nil : Cut [] []
  | cons {bytes rest : List UInt8} {segment : Segment} {cut : List Segment} (hfront : Front bytes segment rest)
      (h : Cut rest cut) : Cut bytes (segment :: cut)

theorem Begins.of_longer {bytes longer : List UInt8} (h : Begins longer) (hstart : bytes <+: longer) :
    Begins bytes := by
  obtain ⟨c, hc⟩ := h
  exact ⟨c, hstart.trans hc⟩

theorem Unfinished.begins {bytes : List UInt8} (h : Unfinished bytes) : Begins bytes := by
  obtain ⟨c, hc, -⟩ := h
  exact ⟨c, hc⟩

/-- It is enough that the next byte does not go on with the form. -/
theorem Chunk.of_next {chunk rest : List UInt8} (hne : chunk ≠ []) (hunfinished : Unfinished chunk)
    (hnext : ∀ b ∈ rest.head?, ¬ Begins (chunk ++ [b])) : Chunk chunk rest := by
  refine .broken hne hunfinished ?_
  intro longer hlonger hlength hbegins
  cases rest with
  | nil =>
    have hle := hlonger.length_le
    rw [List.append_nil] at hle
    omega
  | cons b rest =>
    refine hnext b rfl (hbegins.of_longer (List.prefix_of_prefix_length_le ?_ hlonger ?_))
    · exact ⟨rest, by simp⟩
    · simpa using hlength

/-- Two chunks that the same bytes begin with are one. -/
theorem Chunk.unique {chunk chunk' rest rest' : List UInt8} (h : Chunk chunk rest) (h' : Chunk chunk' rest')
    (hbytes : chunk ++ rest = chunk' ++ rest') : chunk = chunk' := by
  cases h with
  | stray hstray =>
    cases h' with
    | stray hstray' =>
      cases hbytes
      rfl
    | broken hne' hunfinished' hlongest' =>
      obtain ⟨b', chunk', rfl⟩ := List.exists_cons_of_ne_nil hne'
      cases hbytes
      exact absurd (hunfinished'.begins.of_longer ⟨chunk', rfl⟩) hstray
  | broken hne hunfinished hlongest =>
    cases h' with
    | stray hstray' =>
      obtain ⟨b, chunk, rfl⟩ := List.exists_cons_of_ne_nil hne
      cases hbytes
      exact absurd (hunfinished.begins.of_longer ⟨chunk, rfl⟩) hstray'
    | broken hne' hunfinished' hlongest' =>
      have hstart : chunk <+: chunk ++ rest := ⟨rest, rfl⟩
      have hstart' : chunk' <+: chunk ++ rest := hbytes ▸ ⟨rest', rfl⟩
      rcases Nat.lt_trichotomy chunk.length chunk'.length with hlt | heq | hgt
      · exact absurd hunfinished'.begins (hlongest chunk' hstart' hlt)
      · exact (List.prefix_of_prefix_length_le hstart hstart' heq.le).eq_of_length heq
      · exact absurd hunfinished.begins (hlongest' chunk (hbytes ▸ hstart) hgt)

/-! ## What the reader finds -/

section Read

variable {b c d : UInt8} {rest : List UInt8} {lead : Lead}

theorem read_stray (hb : 0x80 ≤ b.toNat) (hlead : Lead.ofByte? b = none) (rest : List UInt8) :
    Segment.read b rest = (.invalid [b], 0) := by
  simp only [Segment.read, if_neg (not_ascii hb), hlead]

theorem not_admitted (h : ¬ lead.Admits c) : c < lead.low ∨ lead.high < c := by
  simp only [UInt8.lt_iff_toNat_lt]
  unfold Lead.Admits at h
  omega

theorem read_after_one (hlead : Lead.ofByte? b = some lead) (hnext : ∀ c ∈ rest.head?, ¬ lead.Admits c) :
    Segment.read b rest = (.invalid [b], 0) := by
  cases rest with
  | nil => simp only [Segment.read, if_neg (not_ascii (not_ascii_of_lead hlead)), hlead]
  | cons c rest =>
    simp only [Segment.read, if_neg (not_ascii (not_ascii_of_lead hlead)), hlead,
      if_pos (not_admitted (hnext c rfl))]

theorem read_after_two (hlead : Lead.ofByte? b = some lead) (hone : lead.following ≠ 1) (hc : lead.Admits c)
    (hnext : ∀ d ∈ rest.head?, ¬ isContinuation d = true) :
    Segment.read b (c :: rest) = (.invalid [b, c], 1) := by
  cases rest with
  | nil =>
    simp only [Segment.read, if_neg (not_ascii (not_ascii_of_lead hlead)), hlead, if_neg (within_lead hc), if_neg hone]
  | cons d rest =>
    simp [Segment.read, if_neg (not_ascii (not_ascii_of_lead hlead)), hlead, if_neg (within_lead hc), if_neg hone,
      hnext d rfl]

theorem read_after_three (hlead : Lead.ofByte? b = some lead) (hthree : lead.following = 3) (hc : lead.Admits c)
    (hd : isContinuation d = true) (hnext : ∀ e ∈ rest.head?, ¬ isContinuation e = true) :
    Segment.read b (c :: d :: rest) = (.invalid [b, c, d], 2) := by
  cases rest with
  | nil =>
    simp [Segment.read, if_neg (not_ascii (not_ascii_of_lead hlead)), hlead, if_neg (within_lead hc), hthree, hd]
  | cons e rest =>
    simp [Segment.read, if_neg (not_ascii (not_ascii_of_lead hlead)), hlead, if_neg (within_lead hc), hthree, hd,
      hnext e rfl]

/-- The reader would have read a form that begins so. -/
theorem not_begins_of_read {more : List UInt8}
    (h : ∀ rest, ∃ chunk n, Segment.read b (more ++ rest) = (.invalid chunk, n)) : ¬ Begins (b :: more) := by
  rintro ⟨c, rest, hform⟩
  rw [List.cons_append] at hform
  obtain ⟨first, following, hbytes, hread⟩ := read_utf8EncodeChar c
  rw [hbytes] at hform
  obtain ⟨rfl, rfl⟩ := List.cons.inj hform
  obtain ⟨chunk, n, hinvalid⟩ := h rest
  have hchar := hread []
  rw [List.append_nil, hinvalid] at hchar
  cases hchar

theorem unfinished_of_form {bytes : List UInt8} {c : Char} (more : List UInt8) (hform : utf8EncodeChar c = bytes ++ more)
    (hmore : more ≠ []) : Unfinished bytes := by
  refine ⟨c, ⟨more, hform.symm⟩, ?_⟩
  intro heq
  apply hmore
  rw [← heq] at hform
  simpa using hform

theorem isContinuation_least : isContinuation 0x80 = true := by decide

theorem unfinished_one (hlead : Lead.ofByte? b = some lead) : Unfinished [b] := by
  have hlow := admits_low hlead
  rcases following_of_lead hlead with hone | htwo | hthree
  · exact unfinished_of_form [_] (form_two hlead hone hlow) (List.cons_ne_nil _ _)
  · exact unfinished_of_form [_, _] (form_three hlead htwo hlow isContinuation_least) (List.cons_ne_nil _ _)
  · exact unfinished_of_form [_, _, _]
      (form_four hlead hthree hlow isContinuation_least isContinuation_least) (List.cons_ne_nil _ _)

theorem unfinished_two (hlead : Lead.ofByte? b = some lead) (hone : lead.following ≠ 1) (hc : lead.Admits c) :
    Unfinished [b, c] := by
  rcases following_of_lead hlead with h | htwo | hthree
  · exact absurd h hone
  · exact unfinished_of_form [_] (form_three hlead htwo hc isContinuation_least) (List.cons_ne_nil _ _)
  · exact unfinished_of_form [_, _]
      (form_four hlead hthree hc isContinuation_least isContinuation_least) (List.cons_ne_nil _ _)

theorem unfinished_three (hlead : Lead.ofByte? b = some lead) (hthree : lead.following = 3) (hc : lead.Admits c)
    (hd : isContinuation d = true) : Unfinished [b, c, d] :=
  unfinished_of_form [_] (form_four hlead hthree hc hd isContinuation_least) (List.cons_ne_nil _ _)

end Read

theorem exists_next {p : UInt8 → Prop} {rest : List UInt8} (h : ¬ ∀ b ∈ rest.head?, ¬ p b) :
    ∃ b more, rest = b :: more ∧ p b := by
  cases rest with
  | nil => exact absurd (fun b hb => nomatch hb) h
  | cons b more =>
    refine ⟨b, more, rfl, ?_⟩
    by_contra hb
    apply h
    intro b' hb'
    cases hb'
    exact hb

/-- The reader takes what stands at the front. -/
theorem front_read (b : UInt8) (rest : List UInt8) :
    Front (b :: rest) (Segment.read b rest).1 (rest.drop (Segment.read b rest).2) := by
  by_cases hascii : b.toNat < 0x80
  · rw [read_ascii hascii]
    have hfront := Front.char (Char.ofNat b.toNat) rest
    rwa [form_one hascii] at hfront
  rcases hlead : Lead.ofByte? b with _ | lead
  · rw [read_stray (by omega) hlead]
    show Front ([b] ++ rest) (.invalid [b]) rest
    exact .invalid (.stray (not_begins_of_read fun _ => ⟨_, _, read_stray (by omega) hlead _⟩))
  -- From here on the form is that of a lead, and goes on byte by byte until one does not fit.
  have hb := not_ascii_of_lead hlead
  by_cases hnext : ∀ c ∈ rest.head?, ¬ lead.Admits c
  · rw [read_after_one hlead hnext]
    show Front ([b] ++ rest) (.invalid [b]) rest
    refine .invalid (.of_next (List.cons_ne_nil _ _) (unfinished_one hlead) fun c hc => ?_)
    exact not_begins_of_read fun _ => ⟨_, _, read_after_one hlead (by simpa using hnext c hc)⟩
  obtain ⟨c, rest, rfl, hc⟩ := exists_next hnext
  by_cases hone : lead.following = 1
  · rw [read_two hlead hb hone hc]
    have hfront := Front.char (Char.ofNat (payload b 32 * 64 + payload c 64)) rest
    rwa [form_two hlead hone hc] at hfront
  by_cases hnext : ∀ d ∈ rest.head?, ¬ isContinuation d = true
  · rw [read_after_two hlead hone hc hnext]
    show Front ([b, c] ++ rest) (.invalid [b, c]) rest
    refine .invalid (.of_next (List.cons_ne_nil _ _) (unfinished_two hlead hone hc) fun d hd => ?_)
    exact not_begins_of_read fun _ => ⟨_, _, read_after_two hlead hone hc (by simpa using hnext d hd)⟩
  obtain ⟨d, rest, rfl, hd⟩ := exists_next hnext
  by_cases htwo : lead.following = 2
  · rw [read_three hlead hb htwo hc hd]
    have hfront := Front.char (Char.ofNat ((payload b 16 * 64 + payload c 64) * 64 + payload d 64)) rest
    rwa [form_three hlead htwo hc hd] at hfront
  have hthree : lead.following = 3 := by
    rcases following_of_lead hlead with h | h | h
    · exact absurd h hone
    · exact absurd h htwo
    · exact h
  by_cases hnext : ∀ e ∈ rest.head?, ¬ isContinuation e = true
  · rw [read_after_three hlead hthree hc hd hnext]
    show Front ([b, c, d] ++ rest) (.invalid [b, c, d]) rest
    refine .invalid (.of_next (List.cons_ne_nil _ _) (unfinished_three hlead hthree hc hd) fun e he => ?_)
    exact not_begins_of_read fun _ => ⟨_, _, read_after_three hlead hthree hc hd (by simpa using hnext e he)⟩
  obtain ⟨e, rest, rfl, he⟩ := exists_next hnext
  rw [read_four hlead hb hthree hc hd he]
  have hfront := Front.char
    (Char.ofNat (((payload b 8 * 64 + payload c 64) * 64 + payload d 64) * 64 + payload e 64)) rest
  rwa [form_four hlead hthree hc hd he] at hfront

theorem cut_segments (bytes : List UInt8) : Cut bytes (segments bytes) := by
  induction bytes using segments.induct with
  | case1 =>
    rw [segments]
    exact .nil
  | case2 b rest segment taken hread ih =>
    rw [segments, hread]
    have hfront := front_read b rest
    rw [hread] at hfront
    exact .cons hfront ih

/-! ## Nothing else is a cut -/

/-- No form begins with another one. -/
theorem form_unique {c c' : Char} (h : utf8EncodeChar c <+: utf8EncodeChar c') : c = c' := by
  obtain ⟨more, hmore⟩ := h
  obtain ⟨b, following, hbytes, hread⟩ := read_utf8EncodeChar c
  obtain ⟨b', following', hbytes', hread'⟩ := read_utf8EncodeChar c'
  rw [hbytes, hbytes', List.cons_append] at hmore
  obtain ⟨rfl, rfl⟩ := List.cons.inj hmore
  have hchar := hread' []
  rw [List.append_nil, hread more] at hchar
  simpa using congrArg Prod.fst hchar

/-- Where there is a chunk, there is no form. -/
theorem Chunk.not_form {chunk rest : List UInt8} (h : Chunk chunk rest) (c : Char) :
    ¬ utf8EncodeChar c <+: chunk ++ rest := by
  intro hform
  cases h with
  | stray hstray =>
    obtain ⟨b, following, hbytes, -⟩ := read_utf8EncodeChar c
    rw [hbytes] at hform
    obtain ⟨rfl, -⟩ := List.cons_prefix_cons.mp hform
    exact hstray ⟨c, by simp [hbytes]⟩
  | broken hne hunfinished hlongest =>
    rcases Nat.lt_or_ge chunk.length (utf8EncodeChar c).length with hlt | hge
    · exact hlongest _ hform hlt ⟨c, List.prefix_rfl⟩
    · have hchunk := List.prefix_of_prefix_length_le hform ⟨rest, rfl⟩ hge
      obtain ⟨c', hstart, hproper⟩ := hunfinished
      obtain rfl := form_unique (hchunk.trans hstart)
      exact hproper (hstart.eq_of_length_le (hchunk.length_le))

theorem Front.unique {bytes bytes' rest rest' : List UInt8} {segment segment' : Segment}
    (h : Front bytes segment rest) (h' : Front bytes' segment' rest') (hbytes : bytes = bytes') :
    segment = segment' ∧ rest = rest' := by
  cases h with
  | char c =>
    cases h' with
    | char c' =>
      have hsame : c = c' := by
        rcases List.prefix_or_prefix_of_prefix ⟨rest, rfl⟩ ⟨rest', hbytes.symm⟩ with hstart | hstart
        · exact form_unique hstart
        · exact (form_unique hstart).symm
      obtain rfl := hsame
      exact ⟨rfl, List.append_cancel_left hbytes⟩
    | invalid hchunk' => exact absurd ⟨rest, hbytes⟩ (hchunk'.not_form c)
  | invalid hchunk =>
    cases h' with
    | char c' => exact absurd ⟨rest', hbytes.symm⟩ (hchunk.not_form c')
    | invalid hchunk' =>
      obtain rfl := hchunk.unique hchunk' hbytes
      exact ⟨rfl, List.append_cancel_left hbytes⟩

theorem Front.ne_nil {bytes rest : List UInt8} {segment : Segment} (h : Front bytes segment rest) : bytes ≠ [] := by
  cases h with
  | char c =>
    obtain ⟨b, following, hbytes, -⟩ := read_utf8EncodeChar c
    simp [hbytes]
  | invalid hchunk =>
    cases hchunk with
    | broken hne => simp [hne]
    | stray => simp

theorem Cut.unique {bytes : List UInt8} {cut cut' : List Segment} (h : Cut bytes cut) (h' : Cut bytes cut') :
    cut = cut' := by
  induction h generalizing cut' with
  | nil =>
    cases h' with
    | nil => rfl
    | cons hfront' => exact absurd rfl hfront'.ne_nil
  | cons hfront _ ih =>
    cases h' with
    | nil => exact absurd rfl hfront.ne_nil
    | cons hfront' hcut' =>
      obtain ⟨rfl, rfl⟩ := hfront.unique hfront' rfl
      rw [ih hcut']

/-! ## Text read strictly -/

/-- A cut without chunks is the text that its bytes are the form of. -/
theorem Cut.eq_encode {bytes : List UInt8} {cs : List Char} (h : Cut bytes (cs.map .char)) : bytes = encode cs := by
  induction cs generalizing bytes with
  | nil =>
    cases h
    rfl
  | cons c cs ih =>
    cases h with
    | cons hfront hcut =>
      cases hfront
      rw [ih hcut, encode, encode, List.flatMap_cons]

theorem mapM_char? {cut : List Segment} {cs : List Char} (h : cut.mapM Segment.char? = some cs) :
    cut = cs.map .char := by
  induction cut generalizing cs with
  | nil =>
    cases h
    rfl
  | cons segment cut ih =>
    cases segment with
    | invalid chunk => simp [Segment.char?] at h
    | char c =>
      simp only [List.mapM_cons, Segment.char?, Option.pure_def, Option.bind_eq_bind, Option.bind_some,
        Option.bind_eq_some_iff, Option.some.injEq] at h
      obtain ⟨rest, hrest, rfl⟩ := h
      rw [ih hrest, List.map_cons]

theorem exists_chars {cut : List Segment} (h : ∀ chunk, .invalid chunk ∉ cut) :
    ∃ cs : List Char, cut = cs.map .char := by
  induction cut with
  | nil => exact ⟨[], rfl⟩
  | cons segment cut ih =>
    obtain ⟨cs, rfl⟩ := ih fun chunk hchunk => h chunk (.tail _ hchunk)
    cases segment with
    | char c => exact ⟨c :: cs, rfl⟩
    | invalid chunk => exact absurd (List.mem_cons_self ..) (h chunk)

/-- The sequences read throughout are the forms of texts. -/
theorem decode?_eq_some_iff {bytes : List UInt8} {cs : List Char} : decode? bytes = some cs ↔ bytes = encode cs := by
  constructor
  · intro h
    have hcut := cut_segments bytes
    rw [mapM_char? h] at hcut
    exact hcut.eq_encode
  · rintro rfl
    exact decode?_encode cs

/-! ## Text read with replacements -/

/-- What is shown of a segment. -/
def Segment.shown : Segment → Char
  | .char c => c
  | .invalid _ => replacement

theorem shown_eq (segment : Segment) : segment.char?.getD replacement = segment.shown := by
  cases segment <;> rfl

theorem lossy_eq {bytes : List UInt8} {cut : List Segment} (h : Cut bytes cut) :
    lossy bytes = cut.map Segment.shown := by
  rw [lossy, (cut_segments bytes).unique h]
  exact List.map_congr_left fun segment _ => shown_eq segment

theorem flatten_runsFrom (run : List Char) (cut : List Segment) :
    (runsFrom run cut).flatten = run ++ cut.map Segment.shown := by
  induction cut generalizing run with
  | nil => simp [runsFrom]
  | cons segment cut ih =>
    cases segment with
    | char c => simp [runsFrom, ih, Segment.shown]
    | invalid chunk => simp [runsFrom, ih, Segment.shown]

/-- The pieces that a writer receives come to the whole text. -/
theorem flatten_runs (bytes : List UInt8) : (runs bytes).flatten = lossy bytes := by
  rw [runs, flatten_runsFrom, List.nil_append, lossy_eq (cut_segments bytes)]

end FixedCapacity.Text
