import Mathlib.Data.Bool.AllAny
import Mathlib.Data.List.TakeWhile
import ZZ9000.FwRelease.HttpHead

/-!
This module proves that the parser of response heads gets the framing of every head that it supports.
-/

namespace ZZRel

section Lines

variable {line : List UInt8}

theorem headLines_cons (acc : List UInt8) (b : UInt8) (text : List UInt8)
    : headLines acc (b :: text)
        = if b = lf then acc :: headLines [] text else headLines (acc ++ [b]) text := rfl

theorem headLines_line (acc rest : List UInt8) (h : lf ∉ line)
    : headLines acc (line ++ lf :: rest) = (acc ++ line) :: headLines [] rest := by
  induction line generalizing acc with
  | nil =>
    rw [List.nil_append, List.append_nil, headLines_cons]
    exact if_pos rfl
  | cons b line ih =>
    rw [List.mem_cons, not_or] at h
    rw [List.cons_append, headLines_cons]
    rw [if_neg (Ne.symm h.1), ih _ h.2, List.append_assoc]
    rfl

theorem headLines_end (acc : List UInt8) (h : lf ∉ line) (hne : acc ++ line ≠ [])
    : headLines acc line = [acc ++ line] := by
  induction line generalizing acc with
  | nil =>
    rw [List.append_nil] at hne ⊢
    exact if_neg hne
  | cons b line ih =>
    rw [List.mem_cons, not_or] at h
    rw [headLines_cons, if_neg (Ne.symm h.1), ih _ h.2 (by simp), List.append_assoc]
    rfl

theorem dropCr_append (line : List UInt8) : dropCr (line ++ [cr]) = line := by
  unfold dropCr
  rw [List.getLast?_append]
  simp

theorem dropCr_of_plain (h : ∀ b ∈ line, Plain b) : dropCr line = line := by
  unfold dropCr
  apply if_neg
  intro hlast
  have := h cr (List.mem_of_getLast? hlast)
  exact this.2.1 rfl

end Lines

theorem plain_of_isBlank {b : UInt8} (h : isBlank b = true) : Plain b := by
  unfold isBlank at h
  simp only [Bool.or_eq_true, beq_iff_eq] at h
  rcases h with h | h <;> rw [h] <;> decide

namespace HttpField

variable (field : HttpField)

theorem encode_ne_nil : field.encode ≠ [] := by
  unfold encode
  simp

theorem plain_encode : ∀ b ∈ field.encode, Plain b := by
  intro b hb
  unfold encode at hb
  simp only [List.mem_append, List.mem_cons] at hb
  rcases hb with hb | hb | ⟨hb | hb⟩ | hb
  . exact (field.nameOk b hb).1
  . rw [hb]
    decide
  . exact plain_of_isBlank (field.beforeOk b hb)
  . exact field.valueOk b ‹_›
  . exact plain_of_isBlank (field.afterOk b hb)

theorem headerIs_of_named {name : List UInt8} (h : field.Named name)
    : headerIs field.encode name = true := by
  have hlength : field.name.length = name.length := by
    rw [← h, List.length_map]
  unfold headerIs encode
  rw [← hlength, List.take_left, List.getElem?_append_right (Nat.le_refl _)]
  rw [h]
  simp

theorem headerIs_of_not_named {name : List UInt8} (hname : (58 : UInt8) ∉ name)
    (h : ¬field.Named name)
    : headerIs field.encode name = false := by
  unfold headerIs encode
  rcases Nat.lt_trichotomy field.name.length name.length with hlt | heq | hgt
  . apply Bool.and_eq_false_iff.mpr
    right
    apply beq_false_of_ne
    intro heq
    apply hname
    obtain ⟨k, hk⟩ : ∃ k, name.length = field.name.length + (k + 1) :=
      ⟨name.length - field.name.length - 1, by omega⟩
    rw [← heq, hk, List.take_append, Nat.add_sub_cancel_left, List.take_succ_cons]
    apply List.mem_map.mpr
    exact ⟨58, by simp, by decide⟩
  . have hne : field.name.map lower ≠ name := h
    rw [← heq, List.take_left]
    simp [hne]
  . rw [List.getElem?_append_left hgt, List.getElem?_eq_getElem hgt]
    have := (field.nameOk _ (List.getElem_mem hgt)).2
    simp [this]

theorem headerValue_encode {name : List UInt8} (h : field.Named name)
    : headerValue field.encode name = field.value := by
  have hlength : (field.name ++ [58]).length = name.length + 1 := by
    rw [← h]
    simp
  have hsplit : field.encode
      = (field.name ++ [58]) ++ (field.before ++ (field.value ++ field.after)) := by
    unfold encode
    simp
  unfold headerValue
  rw [hsplit, List.drop_left' hlength, List.dropWhile_append_of_pos field.beforeOk]
  cases hvalue : field.value with
  | nil =>
    have hafter : field.after.dropWhile isBlank = [] := by
      apply List.dropWhile_eq_nil_iff.mpr
      exact field.afterOk
    rw [List.nil_append, hafter]
    rfl
  | cons b value =>
    have hfirst := field.first b (by rw [hvalue]; rfl)
    rw [List.cons_append, List.dropWhile_cons_of_neg (by simp [hfirst])]
    rw [← List.cons_append, ← hvalue]
    unfold trimEnd
    rw [List.reverse_append, List.dropWhile_append_of_pos (by simpa using field.afterOk)]
    have hstop : field.value.reverse.dropWhile isBlank = field.value.reverse := by
      cases hrev : field.value.reverse with
      | nil => rfl
      | cons c rest =>
        have hlast := field.last c (by
          rw [← List.head?_reverse, hrev]
          rfl)
        exact List.dropWhile_cons_of_neg (by simp [hlast])
    rw [hstop, List.reverse_reverse]

end HttpField

section Fields

/-- What a supported field does to the head. -/
theorem parseField_encode (out : HttpHead) {field : HttpField} (h : field.Supported)
    : ∃ location, parseField out field.encode
        = some {
            status := out.status
            contentLength :=
              if field.Named contentLengthName then
                some (decimalValue 0 field.value)
              else
                out.contentLength
            chunked := if field.Named transferEncodingName then true else out.chunked
            location
          } := by
  have hcolon : (58 : UInt8) ∉ contentLengthName ∧ (58 : UInt8) ∉ transferEncodingName ∧
      (58 : UInt8) ∉ locationName := by decide
  unfold parseField
  by_cases hlength : field.Named contentLengthName
  . have hencoding : ¬field.Named transferEncodingName := by
      unfold HttpField.Named at hlength ⊢
      rw [hlength]
      decide
    obtain ⟨hne, hnine, hdigits⟩ := h.contentLength hlength
    refine ⟨out.location, ?_⟩
    rw [if_pos (field.headerIs_of_named hlength), field.headerValue_encode hlength]
    rw [if_neg, if_pos hlength, if_neg hencoding]
    have := List.length_pos_iff.mpr hne
    rintro (hzero | hlong | hall)
    . omega
    . omega
    . exact hall hdigits
  . rw [if_neg (by rw [field.headerIs_of_not_named hcolon.1 hlength]; decide), if_neg hlength]
    by_cases hencoding : field.Named transferEncodingName
    . refine ⟨out.location, ?_⟩
      rw [if_pos (field.headerIs_of_named hencoding), field.headerValue_encode hencoding]
      rw [if_pos (h.transferEncoding hencoding), if_pos hencoding]
    . rw [if_neg (by rw [field.headerIs_of_not_named hcolon.2.1 hencoding]; decide)]
      rw [if_neg hencoding]
      by_cases hlocation : field.Named locationName
      . refine ⟨field.value, ?_⟩
        rw [if_pos (field.headerIs_of_named hlocation), field.headerValue_encode hlocation]
        rw [if_neg (Nat.not_le.mpr (h.location hlocation))]
      . refine ⟨out.location, ?_⟩
        rw [if_neg (by rw [field.headerIs_of_not_named hcolon.2.2 hlocation]; decide)]

theorem OkHead.lastValue_cons (name : List UInt8) (field : HttpField) (fields : List HttpField)
    : OkHead.lastValue name (field :: fields)
        = match OkHead.lastValue name fields with
          | some value => some value
          | none => if field.Named name then some field.value else none := rfl

theorem parseFields_encode (out : HttpHead) {fields : List HttpField}
    (h : ∀ field ∈ fields, field.Supported)
    : ∃ location, parseFields out (fields.map HttpField.encode)
        = some {
            status := out.status
            contentLength :=
              match OkHead.lastValue contentLengthName fields with
              | some value => some (decimalValue 0 value)
              | none => out.contentLength
            chunked := (OkHead.lastValue transferEncodingName fields).isSome || out.chunked
            location
          } := by
  induction fields generalizing out with
  | nil => exact ⟨out.location, rfl⟩
  | cons field fields ih =>
    rw [List.forall_mem_cons] at h
    obtain ⟨location, hfield⟩ := parseField_encode out h.1
    rw [List.map_cons]
    unfold parseFields
    rw [hfield]
    obtain ⟨location', hfields⟩ := ih {
        status := out.status
        contentLength :=
          if field.Named contentLengthName then
            some (decimalValue 0 field.value)
          else
            out.contentLength
        chunked := if field.Named transferEncodingName then true else out.chunked
        location
      } h.2
    refine ⟨location', ?_⟩
    simp only
    rw [hfields]
    rw [OkHead.lastValue_cons, OkHead.lastValue_cons]
    congr 2
    . cases OkHead.lastValue contentLengthName fields with
      | some value => rfl
      | none =>
        by_cases hnamed : field.Named contentLengthName
        . simp only [if_pos hnamed]
        . simp only [if_neg hnamed]
    . cases OkHead.lastValue transferEncodingName fields with
      | some value => rfl
      | none =>
        by_cases hnamed : field.Named transferEncodingName
        . simp only [if_pos hnamed]
          rfl
        . simp only [if_neg hnamed]

end Fields

namespace OkHead

variable (head : OkHead)

theorem plain_statusLine : ∀ b ∈ head.statusLine, Plain b := by
  have hconst : (∀ b ∈ ascii "HTTP/1.", Plain b) ∧ ∀ b ∈ ascii " 200", Plain b :=
    ⟨List.all_iff_forall_prop.mp (by decide), List.all_iff_forall_prop.mp (by decide)⟩
  intro b hb
  unfold statusLine at hb
  simp only [List.mem_append, List.mem_cons] at hb
  rcases hb with hb | hb | hb | hb
  . exact hconst.1 b hb
  . rw [hb]
    exact head.versionOk
  . exact hconst.2 b hb
  . exact head.reasonOk b hb

theorem parseStatusLine_statusLine : parseStatusLine head.statusLine = some 200 := by
  have htext : ascii "HTTP/1." = [72, 84, 84, 80, 47, 49, 46] := by decide
  have hcode : ascii " 200" = [32, 50, 48, 48] := by decide
  unfold parseStatusLine statusLine
  rw [htext, hcode]
  rfl

end OkHead

theorem headLines_fields {line : List UInt8} {fields : List HttpField} (h : ∀ b ∈ line, Plain b)
    (hne : line ≠ [])
    : (headLines [] (line ++ fields.flatMap fun field => cr :: lf :: field.encode)).map dropCr
        = line :: fields.map HttpField.encode := by
  induction fields generalizing line with
  | nil =>
    have hlf : lf ∉ line := fun hmem => (h lf hmem).2.2 rfl
    rw [List.flatMap_nil, List.append_nil, headLines_end [] hlf (by simpa using hne)]
    rw [List.map_cons, List.nil_append, dropCr_of_plain h]
    rfl
  | cons field fields ih =>
    have hlf : lf ∉ line ++ [cr] := by
      intro hmem
      cases List.mem_append.mp hmem with
      | inl hmem => exact (h lf hmem).2.2 rfl
      | inr hmem => simp [lf, cr] at hmem
    have hsplit : line ++ (field :: fields).flatMap (fun field => cr :: lf :: field.encode)
        = (line ++ [cr]) ++ lf :: (field.encode
            ++ fields.flatMap fun field => cr :: lf :: field.encode) := by
      simp
    rw [hsplit, headLines_line [] _ hlf, List.map_cons, List.nil_append, dropCr_append]
    rw [ih field.plain_encode field.encode_ne_nil]
    rfl

theorem httpParseHead_encode {head : OkHead} (h : ∀ field ∈ head.fields, field.Supported)
    : ∃ location, httpParseHead head.encode
        = some { status := 200, contentLength := head.contentLength, chunked := head.chunked,
                 location } := by
  unfold httpParseHead OkHead.encode
  rw [headLines_fields head.plain_statusLine (by unfold OkHead.statusLine; simp)]
  simp only [head.parseStatusLine_statusLine]
  obtain ⟨location, hfields⟩ := parseFields_encode
    { status := 200, contentLength := none, chunked := false, location := [] } h
  refine ⟨location, ?_⟩
  rw [hfields]
  unfold OkHead.contentLength OkHead.chunked
  congr 2
  . cases OkHead.lastValue contentLengthName head.fields <;> rfl
  . simp

end ZZRel
