import Vibeshine.Pairing.Candidate
import Vibeshine.Pairing.Unambiguous

/-! # Recovery edits only what it removes

A snapshot is laid out as two objects around the array of the named clients. The spans that
recovery finds are those of the layout, and the candidate is laid out in the same way around
the records that are left.
-/

namespace Vibeshine.Pairing

open Library Library.JsonText Library.Cuts List
open Library.Json (isBlank Delimited)
open StateFile (byteOrderMark)

variable {σ : Type}

/-- A snapshot as its text is derived: `root` in the document, `named_devices` in `root`, and
the records in `named_devices`, each with its text. -/
structure Layout (lex : Lexicon σ) (bytes : List Char) where
  mark : List Char
  before : List Char
  document : Frame σ
  root : Frame σ
  blank : List Char
  records : List (Piece (JsonTree σ))
  after : List Char
  mark_or : mark = [] ∨ mark = byteOrderMark
  before_blank : ∀ c ∈ before, isBlank c
  document_valid : document.Valid lex
  document_member : document.member.name = "root"
  root_valid : root.Valid lex
  root_member : root.member.name = "named_devices"
  blank_blank : ∀ c ∈ blank, isBlank c
  padded : ∀ record ∈ records, record.Padded
  spelled : ∀ record ∈ records, Spells lex record.text record.value
  after_blank : ∀ c ∈ after, isBlank c
  text : bytes = mark ++ (before ++ (document.opening ++ ((root.opening ++
    (('[' :: (inside blank records ++ [']'])) ++ root.closing)) ++ document.closing) ++ after))

namespace Layout

variable {lex : Lexicon σ} {bytes : List Char} (layout : Layout lex bytes)

/-- The texts of the array, of `root` and of the document. -/
def arrayText : List Char := '[' :: (inside layout.blank layout.records ++ [']'])

def rootText : List Char := layout.root.opening ++ (layout.arrayText ++ layout.root.closing)

def documentText : List Char := layout.document.opening ++ (layout.rootText ++ layout.document.closing)

def elements : List (JsonTree σ) := layout.records.map (·.value)

def tree : JsonTree σ := layout.document.tree (layout.root.tree (.array layout.elements))

/-! ### Ranges -/

def documentSpan : Span where
  start := layout.mark.length + layout.before.length
  stop := layout.mark.length + layout.before.length + layout.documentText.length

def rootSpan : Span where
  start := layout.documentSpan.start + layout.document.opening.length
  stop := layout.documentSpan.start + layout.document.opening.length + layout.rootText.length

def arraySpan : Span where
  start := layout.rootSpan.start + layout.root.opening.length
  stop := layout.rootSpan.start + layout.root.opening.length + layout.arrayText.length

def recordSpans : List Span := elementSpans (layout.arraySpan.start + 1) layout.records

/-! ### Derivations -/

lemma arrayText_spells : Spells lex layout.arrayText (.array layout.elements) :=
  .array layout.blank_blank layout.padded layout.spelled

lemma rootText_spells : Spells lex layout.rootText (layout.root.tree (.array layout.elements)) :=
  layout.root_valid.spells layout.arrayText_spells

lemma documentText_spells : Spells lex layout.documentText layout.tree :=
  layout.document_valid.spells layout.rootText_spells

lemma bytes_eq : bytes = layout.mark ++ (layout.before ++ (layout.documentText ++ layout.after)) := by
  simpa [documentText, rootText, arrayText] using layout.text

lemma reads : Reads lex byteOrderMark bytes layout.tree :=
  ⟨layout.mark, layout.before, layout.documentText, layout.after, layout.mark_or, layout.before_blank,
    layout.after_blank, layout.documentText_spells, layout.bytes_eq⟩

end Layout

lemma exists_layout {lex : Lexicon σ} {bytes : List Char} {tree root : JsonTree σ}
    {records : List (JsonTree σ)} (hreads : Reads lex byteOrderMark bytes tree) (hdistinct : tree.Distinct)
    (hroot : tree.document.member? "root" = some root)
    (hnamed : root.member? "named_devices" = some (.array records)) :
    ∃ layout : Layout lex bytes, layout.tree = tree ∧
      layout.elements.map JsonTree.document = records := by
  obtain ⟨mark, before, core, after, hmark, hbefore, hafter, hcore, rfl⟩ := hreads
  cases tree with
  | scalar | string | array => cases hroot
  | object members =>
  obtain ⟨hkeys, hvalues⟩ := hdistinct
  rw [JsonTree.member?_document hkeys, Option.map_eq_some_iff] at hroot
  obtain ⟨rootTree, hrootGet, rfl⟩ := hroot
  have hrootDistinct := JsonTree.distinctMembers_iff.1 hvalues _ (KeyMap.mem_of_get? hrootGet)
  obtain ⟨document, rootText, hdocument, hdocumentName, hrootText, rfl, htree⟩ :=
    Frame.of_member hcore hrootGet
  cases rootTree with
  | scalar | string | array => cases hnamed
  | object rootMembers =>
  rw [JsonTree.member?_document hrootDistinct.1, Option.map_eq_some_iff] at hnamed
  obtain ⟨namedTree, hnamedGet, hnamed⟩ := hnamed
  obtain ⟨root, arrayText, hroot, hrootName, harrayText, rfl, hrootTree⟩ :=
    Frame.of_member hrootText hnamedGet
  cases namedTree with
  | scalar | string | object => cases hnamed
  | array elements =>
  cases harrayText with
  | @array blank pieces hblank hpadded hpieces =>
    refine ⟨⟨mark, before, document, root, blank, pieces, after, hmark, hbefore, hdocument,
      hdocumentName, hroot, hrootName, hblank, hpadded, hpieces, hafter, rfl⟩, ?_, ?_⟩
    · rw [htree, hrootTree]
      rfl
    · rw [JsonTree.document, JsonTree.documentElements_eq] at hnamed
      exact (JsonTree.array.inj hnamed)

/-! ## The spans that are found -/

lemma JsonLibrary.memberSpan_frame {lib : JsonLibrary σ} (hlib : lib.Lawful) {frame : Frame σ}
    (hframe : frame.Valid lib.lexicon) {bytes inner rest : List Char} {value : JsonTree σ}
    (hinner : Spells lib.lexicon inner value) {object : Span}
    (hdrop : bytes.drop object.start = frame.opening ++ (inner ++ (frame.closing ++ rest)))
    (hstop : object.stop = object.start + (frame.opening ++ (inner ++ frame.closing)).length) :
    lib.memberSpan bytes object frame.member.name =
      .ok { start := object.start + frame.opening.length
            stop := object.start + frame.opening.length + inner.length } := by
  have hfill : bytes.drop object.start =
      '{' :: (inside frame.blank ((frame.fill inner value).map Member.piece) ++ '}' :: rest) := by
    have hclosed := congrArg (· ++ rest) (Frame.inside_fill frame inner value)
    simp only [cons_append, append_assoc, nil_append] at hclosed
    rw [hdrop, hclosed]
  have hlength := congrArg List.length (Frame.inside_fill frame inner value)
  rw [length_cons, length_append, length_singleton] at hlength
  have hopening : frame.opening.length =
      1 + (leading (frame.before.map Member.piece)).length + frame.member.opening.length := by
    simp only [Frame.opening, length_cons, length_append]
    omega
  have hmember := JsonLibrary.memberSpan_eq hlib (hframe.fill hinner) hframe.names hfill
    (by rw [hstop, ← hlength, add_assoc]; rfl)
  rw [hopening, ← add_assoc, ← add_assoc]
  exact hmember

namespace Layout

variable {lib : JsonLibrary σ} {bytes : List Char} (layout : Layout lib.lexicon bytes)

lemma drop_document : bytes.drop layout.documentSpan.start = layout.documentText ++ layout.after := by
  have hbytes : bytes = (layout.mark ++ layout.before) ++ (layout.documentText ++ layout.after) := by
    rw [append_assoc]
    exact layout.bytes_eq
  have hlength : layout.documentSpan.start = (layout.mark ++ layout.before).length :=
    length_append.symm
  rw [hlength]
  exact drop_of_append hbytes

lemma drop_root : bytes.drop layout.rootSpan.start =
    layout.rootText ++ (layout.document.closing ++ layout.after) :=
  drop_add (by simpa [documentText] using layout.drop_document)

lemma drop_array : bytes.drop layout.arraySpan.start =
    layout.arrayText ++ (layout.root.closing ++ (layout.document.closing ++ layout.after)) :=
  drop_add (by simpa [rootText] using layout.drop_root)

lemma markLength_eq : markLength bytes = layout.mark.length := by
  have hbytes := layout.bytes_eq
  obtain hmark | hmark := layout.mark_or
  · rw [hmark, nil_append] at hbytes
    have hprefix : byteOrderMark.isPrefixOf bytes = false := by
      cases hbefore : layout.before with
      | nil =>
        rw [hbytes, hbefore, documentText, Frame.opening]
        rfl
      | cons c before =>
        have hc := layout.before_blank c (by simp [hbefore])
        rw [hbytes, hbefore, cons_append, byteOrderMark, List.isPrefixOf]
        have hne : ('\u00ef' == c) = false := by
          rw [beq_eq_false_iff_ne]
          rintro rfl
          exact absurd hc (by decide)
        rw [hne, Bool.false_and]
    rw [markLength, hprefix, hmark]
    rfl
  · have hprefix : byteOrderMark.isPrefixOf bytes = true := by
      rw [List.isPrefixOf_iff_prefix, hbytes, hmark]
      exact prefix_append _ _
    rw [markLength, hprefix, hmark]
    rfl

lemma valueSpan_document : valueSpan bytes (markLength bytes) = .ok layout.documentSpan := by
  have hdrop : bytes.drop layout.mark.length =
      layout.before ++ (layout.documentText ++ layout.after) := drop_of_append layout.bytes_eq
  have hend : Delimited [] := by simp [Delimited]
  have hafter : Delimited layout.after := append_nil layout.after ▸ delimited_blank layout.after_blank hend
  rw [layout.markLength_eq]
  exact valueSpan_eq hdrop layout.before_blank layout.documentText_spells hafter

section

variable (hlib : lib.Lawful)

include hlib

lemma memberSpan_root : lib.memberSpan bytes layout.documentSpan "root" = .ok layout.rootSpan := by
  rw [← layout.document_member]
  exact lib.memberSpan_frame hlib layout.document_valid layout.rootText_spells
    (by simpa [documentText] using layout.drop_document) rfl

lemma memberSpan_array :
    lib.memberSpan bytes layout.rootSpan "named_devices" = .ok layout.arraySpan := by
  rw [← layout.root_member]
  exact lib.memberSpan_frame hlib layout.root_valid layout.arrayText_spells
    (by simpa [rootText] using layout.drop_root) rfl

lemma namedRecordSpans_eq : lib.namedRecordSpans bytes = .ok layout.recordSpans := by
  have hinside : bytes.drop (layout.arraySpan.start + 1) = inside layout.blank layout.records ++
        ']' :: (layout.root.closing ++ (layout.document.closing ++ layout.after)) :=
    drop_succ (by simpa [arrayText] using layout.drop_array)
  rw [JsonLibrary.namedRecordSpans, layout.valueSpan_document, ok_bind, layout.memberSpan_root hlib, ok_bind,
    layout.memberSpan_array hlib, ok_bind]
  have hlength := congrArg List.length layout.drop_array
  have hrecs := length_le_inside layout.blank layout.records
  have hstop : layout.arraySpan.stop =
      layout.arraySpan.start + (inside layout.blank layout.records).length + 2 := by
    simp [arraySpan, arrayText]
    omega
  simp only [arrayText, length_drop, length_append, length_cons] at hlength
  exact recordLoop_eq layout.blank_blank layout.padded layout.spelled hinside (by omega) (by omega)

end

end Layout

/-! ## Other records -/

namespace Layout

variable {lib : JsonLibrary σ} {bytes : List Char} (layout : Layout lib.lexicon bytes)

def head : List Char :=
  layout.mark ++ (layout.before ++ (layout.document.opening ++ (layout.root.opening ++ ['['])))

def tail : List Char :=
  ']' :: (layout.root.closing ++ (layout.document.closing ++ layout.after))

variable (records : List (Piece (JsonTree σ)))

def withRecords : List Char :=
  layout.head ++ (inside layout.blank records ++ layout.tail)

lemma bytes_eq_withRecords : bytes = layout.withRecords layout.records := by
  simpa [withRecords, head, tail] using layout.text

lemma length_head : layout.head.length = layout.arraySpan.start + 1 := by
  simp [head, arraySpan, rootSpan, documentSpan]
  omega

def replace (hpadded : ∀ record ∈ records, record.Padded)
    (hspelled : ∀ record ∈ records, Spells lib.lexicon record.text record.value) :
    Layout lib.lexicon (layout.withRecords records) :=
  { layout with
    records
    padded := hpadded
    spelled := hspelled
    text := by simp [withRecords, head, tail] }

lemma parseSnapshot_withRecords (hlib : lib.Lawful) (hdepth : layout.tree.depth ≤ 32)
    (hdistinct : layout.tree.Distinct) {records : List (Piece (JsonTree σ))}
    (hpadded : ∀ record ∈ records, record.Padded)
    (hrecs : ∀ record ∈ records, ∃ old ∈ layout.records,
      record.text = old.text ∧ record.value = old.value) :
    lib.parseSnapshot (layout.withRecords records) = .ok (withNamedDevices layout.tree.document
        ((records.map (·.value)).map JsonTree.document)) := by
  have hspelled : ∀ record ∈ records, Spells lib.lexicon record.text record.value := by
    intro record hrecord
    obtain ⟨old, hold, htext, hvalue⟩ := hrecs record hrecord
    rw [htext, hvalue]
    exact layout.spelled old hold
  have hvalues : ∀ value ∈ records.map (·.value), value ∈ layout.elements := by
    intro value hvalue
    obtain ⟨record, hrecord, rfl⟩ := mem_map.1 hvalue
    obtain ⟨old, hold, _, hsame⟩ := hrecs record hrecord
    exact mem_map.2 ⟨old, hold, hsame.symm⟩
  have hparse := hlib.parse.2 (layout.replace records hpadded hspelled).reads
  have htree : (layout.replace records hpadded hspelled).tree =
      layout.document.tree (layout.root.tree (.array (records.map (·.value)))) := rfl
  -- the array with these records is no deeper, and as free of repeated keys
  have hrootDistinct : (layout.root.tree (.array layout.elements)).Distinct :=
    Frame.distinct_value hdistinct
  have harrayDistinct : (JsonTree.array layout.elements).Distinct :=
    Frame.distinct_value hrootDistinct
  have hdistinct' : (JsonTree.array (records.map (·.value))).Distinct :=
    JsonTree.distinctElements_iff.2 fun value hvalue =>
      JsonTree.distinctElements_iff.1 harrayDistinct value (hvalues value hvalue)
  have hdepth' : (JsonTree.array (records.map (·.value))).depth ≤ (JsonTree.array layout.elements).depth :=
    JsonTree.depthElements_le.2 fun value hvalue =>
      JsonTree.depthElements_le.1 le_rfl value (hvalues value hvalue)
  have hdocument : (layout.document.tree (layout.root.tree (.array (records.map (·.value))))).document =
      withNamedDevices layout.tree.document ((records.map (·.value)).map JsonTree.document) := by
    have hroot := layout.document_valid.member?_document hdistinct
    rw [layout.document_member] at hroot
    change layout.tree.document.member? "root" = _ at hroot
    rw [withNamedDevices, hroot, Frame.document_tree hdistinct, Frame.document_tree hrootDistinct,
      layout.document_member, layout.root_member]
    simp only [JsonTree.document, JsonTree.documentElements_eq]
    rfl
  rw [htree] at hparse
  rw [JsonLibrary.parseSnapshot, hparse]
  dsimp only
  rw [if_pos ⟨(Frame.depth_tree (Frame.depth_tree hdepth')).trans hdepth,
    Frame.distinct_tree hdistinct (Frame.distinct_tree hrootDistinct hdistinct')⟩, hdocument]

end Layout

/-- Every character that is left out is one of a removed record, or a blank or the comma
next to one. -/
def EditsOnly (bytes result : List Char) (spans : List Span) (removed : Finset Nat) : Prop :=
  ∃ kept : Nat → Bool, result = retain kept 0 bytes ∧ ∀ offset < bytes.length, kept offset = false →
      (∃ index ∈ removed, (spanAt spans index).start ≤ offset ∧ offset < (spanAt spans index).stop) ∨
      ∃ index, index + 1 < spans.length ∧ (index ∈ removed ∨ index + 1 ∈ removed) ∧
        (spanAt spans index).stop ≤ offset ∧ offset < (spanAt spans (index + 1)).start ∧
        ∀ c ∈ bytes[offset]?, isBlank c ∨ c = ','

lemma editsOnly_retain {α : Type} {piece : Piece α} {pieces : List (Piece α)} {removed : Finset Nat}
    (blank head tail : List Char) (hpadded : ∀ other ∈ piece :: pieces, other.Padded)
    (hremoved : ∀ index ∈ removed, index < pieces.length + 1)
    (hkept : ∃ index < pieces.length + 1, index ∉ removed) :
    EditsOnly (head ++ (inside blank (piece :: pieces) ++ tail))
      (retain (keptSegment (pieces.length + 1) removed) 0 (textSegments head tail piece pieces)).flatten
      (elementSpans head.length (piece :: pieces)) removed := by
  obtain ⟨kept, hretain, hleft⟩ := retain_flatten (keptSegment (pieces.length + 1) removed) 0 0
    (textSegments head tail piece pieces)
  rw [flatten_textSegments blank] at hretain hleft
  refine ⟨kept, hretain, fun offset hoffset hout => ?_⟩
  obtain ⟨segment, hsegment, hcut, hlow, hhigh⟩ := hleft offset zero_le (by omega) hout
  obtain ⟨hfirst, hlast⟩ := keptSegment_ends hremoved hkept
  rw [zero_add] at hcut hlow hhigh
  rw [length_textSegments] at hsegment
  have hfirstNe : segment ≠ 0 := by
    rintro rfl
    exact absurd (hfirst.symm.trans hcut) (by simp)
  have hlastNe : segment ≠ 2 * (pieces.length + 1) := by
    rintro rfl
    exact absurd (hlast.symm.trans hcut) (by simp)
  obtain ⟨index, rfl | rfl⟩ : ∃ index, segment = 2 * index + 1 ∨ segment = 2 * index + 2 :=
    ⟨(segment - 1) / 2, by omega⟩
  · have hindex : index ≤ pieces.length := by omega
    have hspan : spanAt (elementSpans head.length (piece :: pieces)) index = _ :=
      spanAt_textSegments tail hindex
    refine .inl ⟨index, (keptSegment_record hremoved hkept index).1 hcut, ?_⟩
    rw [hspan]
    exact ⟨hlow, hhigh⟩
  · have hindex : index + 1 < pieces.length + 1 := by omega
    have hremovedBeside : index ∈ removed ∨ index + 1 ∈ removed := by
      obtain hself | hlater := (keptSegment_separator hremoved hkept hindex).1 hcut
      · exact .inl hself
      · exact .inr (hlater (index + 1) (by omega) hindex)
    have hspan : spanAt (elementSpans head.length (piece :: pieces)) index = _ :=
      spanAt_textSegments tail (by omega)
    have hnext : spanAt (elementSpans head.length (piece :: pieces)) (index + 1) = _ :=
      spanAt_textSegments tail (by omega)
    refine .inr ⟨index, by rwa [length_elementSpans], hremovedBeside, ?_, ?_, fun c hc => ?_⟩
    · rw [hspan]
      exact hlow
    · rw [hnext]
      exact hhigh
    · have hlength : 2 * index + 1 < (segments (piece :: pieces)).length := by
        rw [length_segments]
        omega
      have hseparator := getElem?_eq_getElem hlength
      have hsegmentAt : (textSegments head tail piece pieces)[2 * index + 2]? =
          some (segments (piece :: pieces))[2 * index + 1] := by
        rw [textSegments, getElem?_cons_succ, getElem?_append_left hlength, hseparator]
      rw [← flatten_textSegments blank] at hc
      exact segments_separator hpadded hseparator c (mem_of_border hsegmentAt hc hlow hhigh)

namespace Layout

variable {lib : JsonLibrary σ} {bytes : List Char} (layout : Layout lib.lexicon bytes)

lemma slice_recordSpans {index : Nat} {record : Piece (JsonTree σ)}
    (hrecord : layout.records[index]? = some record) :
    slice bytes (spanAt layout.recordSpans index) = record.text := by
  have hinside : bytes.drop (layout.arraySpan.start + 1) =
      inside layout.blank layout.records ++ layout.tail :=
    drop_succ (by simpa [arrayText, tail] using layout.drop_array)
  exact slice_elementSpans hinside hrecord

lemma candidateBytes_eq (hlib : lib.Lawful) (hdepth : layout.tree.depth ≤ 32)
    (hdistinct : layout.tree.Distinct) {removed : Finset Nat}
    (hremoved : ∀ index ∈ removed, index < layout.records.length)
    (hkept : ∃ index < layout.records.length, index ∉ removed) : ∃ result, lib.candidateBytes bytes
        { candidate := withNamedDevices layout.tree.document
            (retain (fun index => index ∉ removed) 0 (layout.elements.map JsonTree.document))
          sourceSpans := layout.recordSpans
          removedIndices := removed } = .ok result ∧
      lib.parseSnapshot result = .ok (withNamedDevices layout.tree.document
        (retain (fun index => index ∉ removed) 0 (layout.elements.map JsonTree.document))) ∧
      EditsOnly bytes result layout.recordSpans removed := by
  have hbytes := layout.bytes_eq_withRecords
  have hspans : layout.recordSpans = elementSpans layout.head.length layout.records := by
    rw [recordSpans, layout.length_head]
  cases hrecs : layout.records with
  | nil =>
    obtain ⟨index, hindex, _⟩ := hkept
    simp [hrecs] at hindex
  | cons piece pieces =>
    rw [hrecs] at hremoved hkept hbytes hspans
    rw [length_cons] at hremoved hkept
    have hpadded := layout.padded
    rw [hrecs] at hpadded
    have hedited : ∀ record ∈ edit removed piece.before 0 (piece :: pieces),
        record.Padded ∧ ∃ old ∈ layout.records, record.text = old.text ∧ record.value = old.value := by
      rw [hrecs]
      intro record hrecord
      exact mem_edit hpadded (hpadded piece mem_cons_self).before hrecord
    have hvalues : (edit removed piece.before 0 (piece :: pieces)).map (·.value) =
        retain (fun index => index ∉ removed) 0 layout.elements := by
      rw [edit_values, elements, hrecs]
    have hparse := layout.parseSnapshot_withRecords hlib hdepth hdistinct
      (fun record hrecord => (hedited record hrecord).1) fun record hrecord => (hedited record hrecord).2
    rw [hvalues, map_retain] at hparse
    have hresult : (retain (keptSegment (pieces.length + 1) removed) 0
        (textSegments layout.head layout.tail piece pieces)).flatten =
          layout.withRecords (edit removed piece.before 0 (piece :: pieces)) :=
      retain_textSegments hremoved hkept
    obtain ⟨removals, hremovals, hcut⟩ :=
      cut_records piece layout.blank layout.head layout.tail hremoved hkept
    have hcut : removals.foldr (fun span text => cut text span.start span.stop) bytes =
        layout.withRecords (edit removed piece.before 0 (piece :: pieces)) :=
      (congrArg (removals.foldr fun span text => cut text span.start span.stop) hbytes).trans
        (hcut.trans hresult)
    have honly := editsOnly_retain layout.blank layout.head layout.tail hpadded hremoved hkept
    rw [hresult, ← hspans] at honly
    refine ⟨_, ?_, hparse, ?_⟩
    · rw [JsonLibrary.candidateBytes, hspans, hremovals, ok_bind, hcut]
      dsimp only
      rw [hparse, ok_bind, hlib.same, require, if_pos rfl, ok_bind]
      rfl
    · exact (congrArg (EditsOnly · _ layout.recordSpans removed) hbytes).mpr honly

end Layout

/-- Recovery edits only what it removes. In a snapshot that is parsed, the spans are those of
`root.named_devices` and its records. For any records but not all of them, the candidate is
parsed as the document without them, and nothing else is cut out of the text. -/
theorem recovery_edits {lib : JsonLibrary σ} (hlib : lib.Lawful) {bytes : List Char}
    {document root : JsonTree σ} {records : List (JsonTree σ)}
    (hsnapshot : lib.parseSnapshot bytes = .ok document)
    (hroot : document.member? "root" = some root)
    (hnamed : root.member? "named_devices" = some (.array records)) :
    ∃ layout : Layout lib.lexicon bytes,
      (layout.tree.document = document ∧ layout.elements.map JsonTree.document = records) ∧
      (valueSpan bytes (markLength bytes) = .ok layout.documentSpan ∧
        lib.memberSpan bytes layout.documentSpan "root" = .ok layout.rootSpan ∧
        lib.memberSpan bytes layout.rootSpan "named_devices" = .ok layout.arraySpan ∧
        lib.namedRecordSpans bytes = .ok layout.recordSpans) ∧
      (∀ index record, layout.records[index]? = some record →
        slice bytes (spanAt layout.recordSpans index) = record.text) ∧
      ∀ removed : Finset Nat, (∀ index ∈ removed, index < records.length) →
        (∃ index < records.length, index ∉ removed) → ∃ result, lib.candidateBytes bytes
            { candidate := withNamedDevices document (retain (fun index => index ∉ removed) 0 records)
              sourceSpans := layout.recordSpans
              removedIndices := removed } = .ok result ∧
          lib.parseSnapshot result =
            .ok (withNamedDevices document (retain (fun index => index ∉ removed) 0 records)) ∧
          EditsOnly bytes result layout.recordSpans removed := by
  unfold JsonLibrary.parseSnapshot at hsnapshot
  split at hsnapshot
  case h_2 => cases hsnapshot
  rename_i tree hparse
  split at hsnapshot
  case isFalse => cases hsnapshot
  rename_i hbounded
  obtain ⟨hdepth, hdistinct⟩ := hbounded
  obtain rfl : tree.document = document := Except.ok.inj hsnapshot
  obtain ⟨layout, rfl, rfl⟩ := exists_layout (hlib.parse.1 hparse) hdistinct hroot hnamed
  refine ⟨layout, ⟨rfl, rfl⟩, ⟨layout.valueSpan_document, layout.memberSpan_root hlib,
    layout.memberSpan_array hlib, layout.namedRecordSpans_eq hlib⟩,
    fun index record => layout.slice_recordSpans, fun removed hremoved hkept => ?_⟩
  have hlength : (layout.elements.map JsonTree.document).length = layout.records.length := by
    rw [length_map, Layout.elements, length_map]
  rw [hlength] at hremoved hkept
  exact layout.candidateBytes_eq hlib hdepth hdistinct hremoved hkept

def threeRecords : JsonTree Bool :=
  .object [("root", .object [("named_devices",
    .array [.object [("uuid", .string "a")], .object [("uuid", .string "b")], .scalar true])])]

/-- The last two records of the three are cut out at once. -/
theorem recovery_edits_three : ∃ layout : Layout plainLexicon (compact threeRecords),
      (grammarLibrary plainLexicon).namedRecordSpans (compact threeRecords) = .ok layout.recordSpans ∧
      ∃ result, (grammarLibrary plainLexicon).parseSnapshot result =
        .ok (.object [("root", .object [("named_devices", .array [.object [("uuid", .string "a")]])])]) ∧
        EditsOnly (compact threeRecords) result layout.recordSpans {1, 2} := by
  have hplain : plainTree threeRecords := by decide
  have hdepth : threeRecords.depth ≤ 32 := by decide
  have hdistinct : threeRecords.Distinct := by decide
  obtain ⟨layout, -, ⟨-, -, -, hspans⟩, -, hedits⟩ :=
    recovery_edits (grammarLibrary_lawful plainLexicon) (parseSnapshot_compact hplain hdepth hdistinct)
      rfl rfl
  obtain ⟨result, -, hparse, honly⟩ := hedits {1, 2} (by decide) ⟨0, by decide, by decide⟩
  exact ⟨layout, hspans, result, hparse, honly⟩

end Vibeshine.Pairing
