import StagedAnalysis.Workbench.State

/-!
# Samples by name

A sample is asked for by its name. Sorting keeps files of one name in their order, and leaving out
what cannot be decoded does not touch the others, so the sample of a name is the file that stands
under this name in the directory.

* `find?_mergeSort`, `find?_filterMap`: neither sorting nor leaving out changes what is found first.
* `find?_sampleFiles`, `readSamples_utf8`: the files that are taken, and what is read of them.
* `sample?_of_readSamples`: the main statement.
-/

namespace StagedAnalysis

/-! ## Searching -/

/-- Where those that are looked for count as equal, sorting does not change which comes first. -/
theorem find?_mergeSort {α : Type} {le : α → α → Bool}
    (trans : ∀ a b c, le a b = true → le b c = true → le a c = true)
    (total : ∀ a b, (le a b || le b a) = true) {p : α → Bool}
    (hp : ∀ a b, p a = true → p b = true → le a b = true) (l : List α) :
    (l.mergeSort le).find? p = l.find? p := by
  have hs : ((l.filter p).Pairwise fun a b => le a b = true) :=
    List.pairwise_of_forall_mem_list fun a ha b hb =>
      hp a b (List.mem_filter.1 ha).2 (List.mem_filter.1 hb).2
  have hsub : (l.filter p).Sublist ((l.mergeSort le).filter p) := by
    simpa using (List.sublist_mergeSort trans total hs List.filter_sublist).filter p
  have hlen : (l.filter p).length = ((l.mergeSort le).filter p).length :=
    ((List.mergeSort_perm l le).filter p).length_eq.symm
  rw [← List.head?_filter, ← List.head?_filter, hsub.eq_of_length hlen]

/-- What is found of the elements that are kept is what comes of the one that is found. -/
theorem find?_filterMap {α β : Type} {f : α → Option β} {q : α → Bool} {p : β → Bool}
    (hf : ∀ a b, f a = some b → p b = q a) {l : List α} {a : α} {b : β} (ha : l.find? q = some a)
    (hb : f a = some b) : (l.filterMap f).find? p = some b := by
  induction l with
  | nil => cases ha
  | cons c l ih =>
    rw [List.find?_cons] at ha
    cases hq : q c with
    | true =>
      rw [hq, Option.some.injEq] at ha
      rw [ha, List.filterMap_cons, hb]
      exact List.find?_cons_of_pos (by rw [hf a b hb, ← ha, hq])
    | false =>
      rw [hq] at ha
      rw [List.filterMap_cons]
      split
      · exact ih ha
      · next d hd =>
        rw [List.find?_cons_of_neg (by simp [hf c d hd, hq])]
        exact ih ha

theorem find?_of_lookup {α β : Type} [BEq α] [LawfulBEq α] {l : List (α × β)} {a : α} {b : β}
    (h : l.lookup a = some b) : l.find? (·.1 == a) = some (a, b) := by
  obtain ⟨before, after, rfl, hb⟩ := List.lookup_eq_some_iff.1 h
  refine List.find?_eq_some_iff_append.2 ⟨by simp, before, after, rfl, fun p hp => ?_⟩
  have hne : a ≠ p.1 := by simpa using hb p hp
  simpa using Ne.symm hne

/-! ## Files in UTF-8 -/

theorem FileTree.lookup_of_find? {t : FileTree} {parts : List String} {content : Bytes}
    (h : t.find? parts = some (.file content)) : t.files.lookup parts = some content := by
  unfold find? at h
  split at h
  · next c hc =>
    cases h
    exact hc
  · split at h <;> cases h

theorem Encoding.ofName?_utf8 : Codec.ofName? "utf-8" = some .utf8 := by decide +kernel

theorem Registry.decoder_utf8 (codecs : Registry) :
    codecs.decoder "utf-8" = .ok Encoding.Codec.utf8.decoder :=
  decoder_of_builtIn Encoding.ofName?_utf8

/-- A file in UTF-8 is decoded or not; it cannot be at fault. -/
theorem decodeFile_utf8 (codecs : Registry) (content : Bytes) :
    decodeFile codecs "utf-8" content = .ok (match Encoding.decodeUtf8 content with
      | .ok cs => .ok (String.ofList (Text.unifyNewlines cs))
      | .error e => .error (.undecodable e.message)) := by
  unfold decodeFile
  rw [Registry.decoder_utf8]
  cases h : Encoding.decodeUtf8 content <;>
    simp [Encoding.Decoder.readText, Encoding.Codec.decoder, Encoding.Codec.decodeFile,
      Encoding.Codec.decode, h, Except.map]

namespace Workbench

/-! ## Samples -/

/-- What is read of a file that is in UTF-8. -/
def Sample.ofUtf8? (file : String × Bytes) : Option Sample :=
  match Encoding.decodeUtf8 file.2 with
  | .ok cs => some ⟨file.1, String.ofList (Text.unifyNewlines cs)⟩
  | .error _ => none

theorem Sample.name_of_ofUtf8? {file : String × Bytes} {s : Sample} (h : ofUtf8? file = some s) :
    s.name = file.1 := by
  unfold ofUtf8? at h
  split at h
  · cases h
    rfl
  · cases h

/-- Every file is read or left out. -/
theorem readSamples_utf8 (codecs : Registry) (t : FileTree) :
    readSamples codecs "utf-8" (some t) = .ok ((sampleFiles t).filterMap Sample.ofUtf8?) := by
  have hall (read : String × Bytes → Except Fault (Option Sample))
      (h : ∀ file, read file = pure (Sample.ofUtf8? file)) :
      (sampleFiles t).mapM read = pure ((sampleFiles t).map Sample.ofUtf8?) := by
    rw [funext h, List.mapM_pure]
  unfold readSamples
  dsimp only
  rw [hall _ ?each]
  case each =>
    intro file
    unfold Sample.ofUtf8?
    rw [decodeFile_utf8]
    cases Encoding.decodeUtf8 file.2 <;> rfl
  show Except.ok (((sampleFiles t).map Sample.ofUtf8?).filterMap id) = _
  rw [List.filterMap_map]
  rfl

/-- The file of a name is the one that stands in the directory. -/
theorem find?_sampleFiles {t : FileTree} {name : String} {content : Bytes}
    (hn : isSampleName name = true) (ht : t.find? [name] = some (.file content)) :
    (sampleFiles t).find? (·.1 == name) = some (name, content) := by
  unfold sampleFiles
  rw [find?_mergeSort ?trans ?total ?equal]
  case trans =>
    intro a b c hab hbc
    simp only [decide_eq_true_eq] at hab hbc ⊢
    exact String.le_trans hab hbc
  case total =>
    intro a b
    simpa using String.le_total a.1 b.1
  case equal =>
    intro a b ha hb
    simp only [beq_iff_eq] at ha hb
    simp [ha, hb]
  refine find?_filterMap ?_ (find?_of_lookup (FileTree.lookup_of_find? ht)) (by simp [hn])
  intro file b hb
  dsimp only at hb
  split at hb
  · next n hf =>
    split at hb
    · cases hb
      simp [hf]
    · cases hb
  · cases hb

/-- The sample of a program file in UTF-8 is its text with newlines unified. -/
theorem sample?_of_readSamples {codecs : Registry} {t : FileTree} {c : Config} {name : String}
    {content : Bytes} {cs : List Char}
    (hc : readSamples codecs "utf-8" (some t) = .ok c.samples)
    (hn : isSampleName name = true) (ht : t.find? [name] = some (.file content))
    (hd : Encoding.decodeUtf8 content = .ok cs) :
    c.sample? name = some ⟨name, String.ofList (Text.unifyNewlines cs)⟩ := by
  rw [readSamples_utf8, Except.ok.injEq] at hc
  rw [Config.sample?, ← hc]
  refine find?_filterMap (fun file s hs => ?_) (find?_sampleFiles hn ht)
    (by rw [Sample.ofUtf8?, hd])
  rw [Sample.name_of_ofUtf8? hs]

end Workbench

end StagedAnalysis
