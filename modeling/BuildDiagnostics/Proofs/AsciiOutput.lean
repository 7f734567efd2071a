import BuildDiagnostics.Proofs.Components
import BuildDiagnostics.Proofs.Replay

/-!
# ASCII output

Every encoding that can be chosen gives ASCII bytes their meaning: each decoder reads such a byte as
one character and goes on with the bytes behind it (`units_of_step`). Only ISO-2022-JP is apart: an
escape changes how it reads on, and it rejects the two shift controls. A line that holds one of
these is valid UTF-8 and is read as that, so its text is the same.

* `units_ascii`: what each encoding makes of ASCII bytes.
* `decode_ascii`: the text of ASCII bytes, and when something was done about them.
* `ledger_performAll_congr`: a run depends on its lines only by their texts.
* `ascii_read_alike`: ASCII output is read alike in every encoding, line by line and as a log.
-/

namespace BuildDiagnostics

open EastAsian (Index Indexes ascii isAscii)

/-! ## Bytes as text -/

/-- ASCII bytes as text. -/
def asciiText (bytes : List UInt8) : List Char := bytes.map ascii

theorem toNat_ascii {b : UInt8} (h : b < 0x80) : (ascii b).toNat = b.toNat := by
  have hb : b.toNat < 128 := UInt8.lt_iff_toNat_lt.1 h
  have hvalid : b.toNat.isValidChar := Or.inl (by omega)
  unfold ascii
  rw [Char.ofNat, dif_pos hvalid]
  rfl

theorem ascii_inj {a b : UInt8} (ha : a < 0x80) (hb : b < 0x80) (h : ascii a = ascii b) :
    a = b := by
  have hnat := congrArg Char.toNat h
  rw [toNat_ascii ha, toNat_ascii hb] at hnat
  exact UInt8.toNat_inj.1 hnat

theorem Text.dropLastIf_map {α β : Type} [BEq α] [LawfulBEq α] [BEq β] [LawfulBEq β] {f : α → β}
    {a : α} {s : List α} (hf : ∀ b ∈ s, f b = f a → b = a) :
    dropLastIf (f a) (s.map f) = (dropLastIf a s).map f := by
  rcases List.eq_nil_or_concat s with rfl | ⟨init, last, rfl⟩
  · rfl
  · rw [List.concat_eq_append] at hf ⊢
    rw [List.map_append, List.map_singleton]
    by_cases h : last = a
    · rw [h, dropLastIf_concat, dropLastIf_concat]
    · have hlast : f last ≠ f a := fun he => h (hf last (by simp) he)
      rw [dropLastIf_of_ne (by simpa using hlast), dropLastIf_of_ne (by simpa using h),
        List.map_append, List.map_singleton]

theorem Text.mem_dropLastIf_of_ne {α : Type} [BEq α] [LawfulBEq α] {a b : α} {s : List α}
    (hne : b ≠ a) (h : b ∈ s) : b ∈ dropLastIf a s := by
  rcases List.eq_nil_or_concat s with rfl | ⟨init, last, rfl⟩
  · exact absurd h List.not_mem_nil
  · rw [List.concat_eq_append] at h ⊢
    by_cases hl : last = a
    · rw [hl, dropLastIf_concat]
      rcases List.mem_append.1 h with h | h
      · exact h
      · exact absurd ((List.mem_singleton.1 h).trans hl) hne
    · rwa [dropLastIf_of_ne (by simpa using hl)]

/-- **The end of a line can be dropped before or after it is read.** -/
theorem asciiText_dropLineEnd {bytes : List UInt8} (h : ∀ b ∈ bytes, b < 0x80) :
    asciiText (Encoding.dropLineEnd bytes) =
      Text.dropLastIf '\r' (Text.dropLastIf '\n' (asciiText bytes)) := by
  have hdrop : ∀ (a : UInt8) (s : List UInt8), a < 0x80 → (∀ b ∈ s, b < 0x80) →
      Text.dropLastIf (ascii a) (s.map ascii) = (Text.dropLastIf a s).map ascii := by
    intro a s ha hs
    exact Text.dropLastIf_map fun b hb he => ascii_inj (hs b hb) ha he
  have hinner : ∀ b ∈ Text.dropLastIf 10 bytes, b < 0x80 := fun b hb =>
    h b (Text.mem_of_mem_dropLastIf hb)
  have hreturn := hdrop 13 (Text.dropLastIf 10 bytes) (by decide) hinner
  rw [← hdrop 10 bytes (by decide) h] at hreturn
  exact hreturn.symm

namespace Encoding

/-! ## Units of ASCII bytes -/

/-- A decoder that reads a kind of bytes one by one reads a text of them byte by byte. -/
theorem units_of_step {f : List UInt8 → CodeUnits} {g : UInt8 → Option Char} {P : UInt8 → Prop}
    (hnil : f [] = []) (hstep : ∀ b rest, P b → f (b :: rest) = g b :: f rest)
    {bytes : List UInt8} (h : ∀ b ∈ bytes, P b) : f bytes = bytes.map g := by
  induction bytes with
  | nil => exact hnil
  | cons b rest ih =>
    rw [hstep b rest (h b List.mem_cons_self), List.map_cons,
      ih fun x hx => h x (List.mem_cons_of_mem _ hx)]

section Families

variable {b : UInt8}

/-- Where lead bytes are none of ASCII, an ASCII byte is read alone. -/
theorem pairUnits_step {isLead : UInt8 → Bool} {single : UInt8 → Option Char}
    {pair : UInt8 → UInt8 → Option (List Char)} (hlead : isLead b = false)
    (hsingle : single b = some (ascii b)) (rest : List UInt8) :
    EastAsian.pairUnits isLead single pair (b :: rest) =
      some (ascii b) :: EastAsian.pairUnits isLead single pair rest := by
  rw [EastAsian.pairUnits.eq_def]
  dsimp only
  rw [hlead, hsingle]
  rfl

variable (h : b < 0x80)

include h

theorem isAscii_ascii : isAscii b = true := decide_eq_true h

/-- A bound above ASCII is above the byte. -/
theorem not_le_ascii {c : UInt8} (hc : 0x80 ≤ c) : ¬ c ≤ b :=
  UInt8.not_le.2 (UInt8.lt_of_lt_of_le h hc)

theorem utf8_step (rest : List UInt8) :
    Utf8.units (b :: rest) = some (ascii b) :: Utf8.units rest := by
  rw [Utf8.units.eq_def]
  dsimp only
  rw [if_pos h]
  rfl

theorem char?_ascii (p : CodePage) : p.char? b = some (ascii b) := by
  unfold CodePage.char?
  rw [if_pos h]
  rfl

theorem userDefinedChar_ascii : userDefinedChar b = ascii b := by
  unfold userDefinedChar
  rw [if_pos h]
  rfl

theorem eucJp_step (jis0208 jis0212 : Index) (rest : List UInt8) :
    EastAsian.EucJp.units jis0208 jis0212 (b :: rest) =
      some (ascii b) :: EastAsian.EucJp.units jis0208 jis0212 rest := by
  rw [EastAsian.EucJp.units.eq_def]
  dsimp only
  rw [isAscii_ascii h, if_pos rfl]

theorem gb18030_step (t : Index) (rest : List UInt8) :
    EastAsian.Gb18030.units t (b :: rest) = some (ascii b) :: EastAsian.Gb18030.units t rest := by
  rw [EastAsian.Gb18030.units.eq_def]
  dsimp only
  rw [isAscii_ascii h, if_pos rfl]

theorem isWideLead_ascii : EastAsian.isWideLead b = false := by
  have hlow := not_le_ascii h (c := 0x81) (by decide)
  simp [EastAsian.isWideLead, hlow]

theorem asciiOnly_ascii : EastAsian.asciiOnly b = some (ascii b) := by
  unfold EastAsian.asciiOnly
  rw [isAscii_ascii h, if_pos rfl]

theorem shiftJis_step (jis0208 : Index) (rest : List UInt8) :
    EastAsian.ShiftJis.units jis0208 (b :: rest) =
      some (ascii b) :: EastAsian.ShiftJis.units jis0208 rest := by
  have hlow := not_le_ascii h (c := 0x81) (by decide)
  have hhigh := not_le_ascii h (c := 0xE0) (by decide)
  refine pairUnits_step ?_ ?_ rest
  · simp [EastAsian.ShiftJis.isLead, hlow, hhigh]
  · unfold EastAsian.ShiftJis.single
    rw [if_pos (UInt8.le_of_lt h)]
    rfl

/-- In its first set of characters, ISO-2022-JP reads a byte that is no escape alone. -/
theorem iso2022Jp_step (jis0208 : Index) (hescape : b ≠ 0x1B) (rest : List UInt8) :
    EastAsian.Iso2022Jp.units jis0208 (b :: rest) =
      (if b = 0x0E ∨ b = 0x0F then none else some (ascii b)) ::
        EastAsian.Iso2022Jp.units jis0208 rest := by
  have hsingle : EastAsian.Iso2022Jp.single .ascii b =
      if b = 0x0E ∨ b = 0x0F then none else some (ascii b) := by
    unfold EastAsian.Iso2022Jp.single
    by_cases hout : b = 0x0E <;> by_cases hin : b = 0x0F <;>
      simp [isAscii_ascii h, hout, hin]
  unfold EastAsian.Iso2022Jp.units
  rw [EastAsian.Iso2022Jp.unitsFrom.eq_def]
  dsimp only
  rw [if_neg hescape, if_neg (by simp), hsingle]

end Families

/-- The byte is a shift control in an encoding that rejects these. -/
def Shifts (e : Encoding) (b : UInt8) : Prop :=
  e.name = "ISO-2022-JP" ∧ (b = 0x0E ∨ b = 0x0F)

instance (e : Encoding) (b : UInt8) : Decidable (e.Shifts b) := by
  unfold Shifts
  infer_instance

variable {e : Encoding} {bytes : List UInt8}

theorem eq_iso2022Jp_of_name (h : e.name = "ISO-2022-JP") : ∃ jis0208, e = .iso2022Jp jis0208 := by
  cases e with
  | iso2022Jp jis0208 => exact ⟨jis0208, rfl⟩
  | page p => cases p <;> exact absurd h (by decide)
  | _ => exact absurd h (by simp [name])

/-- Every encoding but ISO-2022-JP reads ASCII bytes one by one. -/
theorem units_of_name_ne (h : ∀ b ∈ bytes, b < 0x80) (hname : e.name ≠ "ISO-2022-JP") :
    e.units bytes = bytes.map fun b => some (ascii b) := by
  cases e with
  | utf8 => exact units_of_step rfl (fun b rest hb => utf8_step hb rest) h
  | page p => exact List.map_congr_left fun b hb => char?_ascii (h b hb) p
  | hebrewLogical => exact List.map_congr_left fun b hb => char?_ascii (h b hb) _
  | userDefined =>
    exact List.map_congr_left fun b hb => congrArg some (userDefinedChar_ascii (h b hb))
  | shiftJis jis0208 => exact units_of_step rfl (fun b rest hb => shiftJis_step hb jis0208 rest) h
  | eucJp jis0208 jis0212 =>
    exact units_of_step rfl (fun b rest hb => eucJp_step hb jis0208 jis0212 rest) h
  | iso2022Jp jis0208 => exact absurd rfl hname
  | eucKr t | big5 t =>
    exact units_of_step rfl
      (fun b rest hb => pairUnits_step (isWideLead_ascii hb) (asciiOnly_ascii hb) rest) h
  | gbk t | gb18030 t => exact units_of_step rfl (fun b rest hb => gb18030_step hb t rest) h

/-- ISO-2022-JP does so too as long as no escape comes, but rejects the shift controls. -/
theorem units_iso2022Jp (h : ∀ b ∈ bytes, b < 0x80) (hescape : 0x1B ∉ bytes) (jis0208 : Index) :
    (iso2022Jp jis0208).units bytes =
      bytes.map fun b => if b = 0x0E ∨ b = 0x0F then none else some (ascii b) := by
  have hbytes : ∀ b ∈ bytes, b < 0x80 ∧ b ≠ 0x1B := by
    intro b hb
    refine ⟨h b hb, ?_⟩
    rintro rfl
    exact hescape hb
  exact units_of_step rfl (fun b rest hb => iso2022Jp_step hb.1 jis0208 hb.2 rest) hbytes

/-- **Every encoding reads ASCII bytes alike**, one by one, but for the shift controls of
ISO-2022-JP. -/
theorem units_ascii (h : ∀ b ∈ bytes, b < 0x80)
    (hescape : e.name = "ISO-2022-JP" → 0x1B ∉ bytes) :
    e.units bytes = bytes.map fun b => if e.Shifts b then none else some (ascii b) := by
  by_cases hname : e.name = "ISO-2022-JP"
  · have hplain := hescape hname
    obtain ⟨jis0208, rfl⟩ := eq_iso2022Jp_of_name hname
    rw [units_iso2022Jp h hplain]
    simp [Shifts, name]
  · rw [units_of_name_ne h hname]
    exact List.map_congr_left fun b _ => (if_neg fun hs => hname hs.1).symm

/-! ## The text of ASCII bytes -/

theorem decode?_ascii (h : ∀ b ∈ bytes, b < 0x80) :
    Utf8.decode? bytes = some (asciiText bytes) := by
  have hunits : Utf8.units bytes = bytes.map fun b => some (ascii b) :=
    units_of_step rfl (fun b rest hb => utf8_step hb rest) h
  unfold Utf8.decode? asciiText
  rw [hunits]
  clear hunits h
  induction bytes with
  | nil => rfl
  | cons b rest ih => rw [List.map_cons, List.map_cons, List.mapM_cons, ih]; rfl

/-- **The text of ASCII bytes is the same in every encoding.** Something has to be done about it
only where there is a shift control. -/
theorem decode_ascii (h : ∀ b ∈ bytes, b < 0x80) (hescape : e.name = "ISO-2022-JP" → 0x1B ∉ bytes) :
    e.decode bytes =
      (asciiText bytes, if ∃ b ∈ bytes, e.Shifts b then some .readAsUtf8 else none) := by
  unfold decode
  dsimp only
  rw [units_ascii h hescape]
  by_cases hshift : ∃ b ∈ bytes, e.Shifts b
  · -- the encoding is not UTF-8, which the bytes are valid in
    obtain ⟨b, hb, hs⟩ := hshift
    have hne : e ≠ .utf8 := by
      rintro rfl
      exact absurd hs.1 (by decide)
    have hrejected : ¬ (bytes.map fun b => if e.Shifts b then none else some (ascii b)).all
        Option.isSome = true := by
      rw [List.all_eq_true]
      intro hall
      have := hall none (List.mem_map.2 ⟨b, hb, if_pos hs⟩)
      cases this
    rw [if_neg hrejected, if_neg hne, decode?_ascii h, if_pos ⟨b, hb, hs⟩]
  · have hunits : (bytes.map fun b => if e.Shifts b then none else some (ascii b)) =
        (asciiText bytes).map some := by
      unfold asciiText
      rw [List.map_map]
      exact List.map_congr_left fun b hb => if_neg fun hs => hshift ⟨b, hb, hs⟩
    rw [hunits, if_neg hshift, if_pos (by simp)]
    simp

theorem decodeLine_ascii (h : ∀ b ∈ bytes, b < 0x80)
    (hescape : e.name = "ISO-2022-JP" → 0x1B ∉ bytes) :
    e.decodeLine bytes =
      (Text.dropLastIf '\r' (Text.dropLastIf '\n' (asciiText bytes)),
        if ∃ b ∈ bytes, e.Shifts b then some .readAsUtf8 else none) := by
  have hsub : ∀ b ∈ dropLineEnd bytes, b ∈ bytes := fun b hb =>
    Text.mem_of_mem_dropLastIf (Text.mem_of_mem_dropLastIf hb)
  -- what is dropped at the end of the line is no shift control
  have hshift : (∃ b ∈ dropLineEnd bytes, e.Shifts b) ↔ ∃ b ∈ bytes, e.Shifts b := by
    constructor
    · rintro ⟨b, hb, hs⟩
      exact ⟨b, hsub b hb, hs⟩
    · rintro ⟨b, hb, hs⟩
      have hplain : b ≠ 10 ∧ b ≠ 13 := by rcases hs.2 with rfl | rfl <;> decide
      exact ⟨b, Text.mem_dropLastIf_of_ne hplain.2 (Text.mem_dropLastIf_of_ne hplain.1 hb), hs⟩
  unfold decodeLine
  rw [decode_ascii (fun b hb => h b (hsub b hb)) fun he hb => hescape he (hsub _ hb),
    asciiText_dropLineEnd h]
  simp only [hshift]

/-! ## Labels -/

theorem nameOfLabel?_of_ofLabel {label : String} {tables : Indexes}
    (h : ofLabel label tables = .ok e) : nameOfLabel? label = some e.name := by
  unfold ofLabel at h
  cases hname : nameOfLabel? label with
  | none => rw [hname] at h; cases h
  | some n =>
    rw [hname] at h
    dsimp only at h
    cases hfind : (all tables).find? fun e => e.name == n with
    | none => rw [hfind] at h; cases h
    | some e' =>
      rw [hfind] at h
      cases h
      have hn := List.find?_some hfind
      rw [eq_of_beq hn]

end Encoding

/-! ## Logs -/

/-- Every line of a log is made of its bytes. -/
theorem mem_of_mem_logLines {bytes line : List UInt8} {b : UInt8} (hline : line ∈ logLines bytes)
    (hb : b ∈ line) : b ∈ bytes := by
  unfold logLines Text.records at hline
  dsimp only at hline
  split at hline
  · exact Text.mem_of_mem_pieces (List.dropLast_subset _ hline) hb
  · exact Text.mem_of_mem_pieces hline hb

namespace Consumer

variable {c d : Consumer}

/-- What is handed over in a run depends on the channels at its start and on what each action brings
to them. -/
theorem candidates_congr {as : List (Stream × Action)} (hchannel : ∀ s, c.channel s = d.channel s)
    (hinputs : ∀ x ∈ as, c.inputs x.2 = d.inputs x.2) : c.candidates as = d.candidates as := by
  induction as generalizing c d with
  | nil => rfl
  | cons x rest ih =>
    obtain ⟨s, a⟩ := x
    have ha : c.inputs a = d.inputs a := hinputs (s, a) List.mem_cons_self
    have hafter : ∀ t, (c.perform s a).channel t = (d.perform s a).channel t := by
      intro t
      rw [channel_perform, channel_perform, hchannel, hchannel, ha]
    have hlater : ∀ x ∈ rest, (c.perform s a).inputs x.2 = (d.perform s a).inputs x.2 := by
      intro x hx
      rw [inputs_perform, inputs_perform]
      exact hinputs x (List.mem_cons_of_mem _ hx)
    rw [candidates, candidates, handed, handed, hchannel, ha, ih hafter hlater]

/-- **A run depends on its lines only by their texts**: consumers that differ in their encodings
record the same as long as they read the same. -/
theorem ledger_performAll_congr {as : List (Stream × Action)} (hledger : c.ledger = d.ledger)
    (hchannel : ∀ s, c.channel s = d.channel s)
    (hinputs : ∀ x ∈ as, c.inputs x.2 = d.inputs x.2) :
    (c.performAll as).ledger = (d.performAll as).ledger := by
  rw [ledger_performAll, ledger_performAll, candidates_congr hchannel hinputs]
  exact ledger_recordAll hledger _

/-- The consumer with another encoding. -/
def withEncoding (c : Consumer) (e : Encoding) : Consumer := { c with encoding := e }

theorem replayEvents_congr {bytes : List UInt8} {e e' : Encoding}
    (h : ∀ line ∈ logLines bytes, (e.decodeLine line).1 = (e'.decodeLine line).1) :
    ((c.withEncoding e).observeAll (replayEvents bytes)).ledger =
      ((c.withEncoding e').observeAll (replayEvents bytes)).ledger := by
  rw [observeAll_eq_performAll, observeAll_eq_performAll]
  refine ledger_performAll_congr rfl (fun s => by cases s <;> rfl) fun x hx => ?_
  obtain ⟨event, hevent, rfl⟩ := List.mem_map.1 hx
  unfold replayEvents endEvents at hevent
  rcases List.mem_append.1 hevent with hevent | hevent
  · obtain ⟨line, hline, rfl⟩ := List.mem_map.1 hevent
    exact congrArg (fun text => if c.enabled then (fedLines text).map Channel.Input.line else [])
      (h line hline)
  · -- the end of a stream is not decoded
    rcases List.mem_pair.1 hevent with rfl | rfl <;> rfl

end Consumer

/-- **ASCII output is read alike in every encoding that a label can choose**, whatever the tables of
the encodings hold. The bytes must have no escape if the label names ISO-2022-JP. A line is read as
the characters of its bytes, without one line feed at its end and then without one carriage return.
Nothing has to be done about it, unless ISO-2022-JP rejects a shift control in it; it is then read
as UTF-8. A log of such bytes has as many lines as in UTF-8, and the same diagnostics are recorded
and told to subscribers. -/
theorem ascii_read_alike {label : String} {tables : Indexes} {e : Encoding} {bytes : List UInt8}
    (hlabel : Encoding.ofLabel label tables = .ok e) (hascii : ∀ b ∈ bytes, b < 0x80)
    (hescape : Encoding.nameOfLabel? label = some "ISO-2022-JP" → 0x1B ∉ bytes) :
    e.decodeLine bytes =
        (Text.dropLastIf '\r' (Text.dropLastIf '\n' (asciiText bytes)),
          if Encoding.nameOfLabel? label = some "ISO-2022-JP" ∧ (0x0E ∈ bytes ∨ 0x0F ∈ bytes) then
            some .readAsUtf8
          else none) ∧
      ∀ (c : Consumer) (d : Disk) (p : Path), d.read p = .ok bytes → ∃ after after',
        (c.withEncoding e).replay d p = .ok ((logLines bytes).length, after) ∧
        (c.withEncoding .utf8).replay d p = .ok ((logLines bytes).length, after') ∧
        after.recorded = after'.recorded ∧ after.subscribers = after'.subscribers := by
  have hname : Encoding.nameOfLabel? label = some "ISO-2022-JP" ↔ e.name = "ISO-2022-JP" := by
    rw [Encoding.nameOfLabel?_of_ofLabel hlabel, Option.some.injEq]
  have hshift : (Encoding.nameOfLabel? label = some "ISO-2022-JP" ∧
      (0x0E ∈ bytes ∨ 0x0F ∈ bytes)) ↔ ∃ b ∈ bytes, e.Shifts b := by
    rw [hname]
    constructor
    · rintro ⟨he, hb | hb⟩
      · exact ⟨_, hb, he, .inl rfl⟩
      · exact ⟨_, hb, he, .inr rfl⟩
    · rintro ⟨b, hb, he, rfl | rfl⟩
      · exact ⟨he, .inl hb⟩
      · exact ⟨he, .inr hb⟩
  rw [hname] at hescape
  refine ⟨?_, fun c d p hread => ?_⟩
  · rw [Encoding.decodeLine_ascii hascii hescape]
    simp only [hshift]
  · refine ⟨_, _, Consumer.replay_of_read _ hread, Consumer.replay_of_read _ hread, ?_⟩
    -- each line is ASCII without an escape, as the whole log is, and so is read as in UTF-8
    have hlines : ∀ line ∈ logLines bytes,
        (e.decodeLine line).1 = (Encoding.utf8.decodeLine line).1 := by
      intro line hline
      have hplain : ∀ b ∈ line, b < 0x80 := fun b hb => hascii b (mem_of_mem_logLines hline hb)
      have hutf8 : Encoding.utf8.name = "ISO-2022-JP" → 0x1B ∉ line := fun he =>
        absurd he (by decide)
      rw [Encoding.decodeLine_ascii hplain fun he hb => hescape he (mem_of_mem_logLines hline hb),
        Encoding.decodeLine_ascii hplain hutf8]
    have hledger := Consumer.replayEvents_congr (c := c) hlines
    simp only [Consumer.ledger, Prod.mk.injEq] at hledger
    exact ⟨hledger.1, hledger.2.2⟩

/-- A report with a shift control in its message, which ISO-2022-JP rejects. -/
theorem ascii_read_alike_shift_control :
    let bytes := Utf8.encode "a.c:1:1: error: \x0e!\r\n"
    let d : Disk := ⟨[(["log"], .file bytes)], []⟩
    let c := Consumer.fresh [.gcc] true .utf8 []
    let tables : Indexes := { jis0208 := #[some '\u3000'] }
    let e := Encoding.iso2022Jp tables.jis0208
    Encoding.ofLabel " ISO-2022-JP" tables = .ok e ∧ (∀ b ∈ bytes, b < 0x80) ∧ 0x1B ∉ bytes ∧
      d.read ⟨"/log"⟩ = .ok bytes ∧
      e.decodeLine bytes = ("a.c:1:1: error: \x0e!".toList, some .readAsUtf8) ∧
      ∃ after after', (c.withEncoding e).replay d ⟨"/log"⟩ = .ok (1, after) ∧
        (c.withEncoding .utf8).replay d ⟨"/log"⟩ = .ok (1, after') ∧
        after.recorded = after'.recorded ∧ after.subscribers = after'.subscribers := by
  intro bytes d c tables e
  have hlabel : Encoding.ofLabel " ISO-2022-JP" tables = .ok e := by decide +kernel
  have hascii : ∀ b ∈ bytes, b < 0x80 := by decide +kernel
  have hescape : 0x1B ∉ bytes := by decide +kernel
  have hread : d.read ⟨"/log"⟩ = .ok bytes := by decide +kernel
  have hcount : (logLines bytes).length = 1 := by decide +kernel
  obtain ⟨htext, hlog⟩ := ascii_read_alike hlabel hascii fun _ => hescape
  have hreplay := hlog c d _ hread
  rw [hcount] at hreplay
  refine ⟨hlabel, hascii, hescape, hread, htext.trans ?_, hreplay⟩
  decide +kernel

end BuildDiagnostics
