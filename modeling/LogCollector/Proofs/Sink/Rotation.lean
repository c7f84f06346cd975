import LogCollector.Proofs.Calendar.LocalTime
import LogCollector.Proofs.Storage.Tree
import LogCollector.Sink.RotatingFile
import Mathlib.Data.List.Nodup
import Mathlib.Data.List.Perm.Subperm

/-!
# Writing to a file that rotates

What a rotating file has taken since it was emptied last stands in the tree or is buffered (`live`).
A text that is pushed stands behind it, whether it is buffered or not (`push_extends`). A rotation
moves the whole of it to a name for a copy, which is free because there are fewer nodes than names
(`freeCopyName_spec`). So a line that is written either stands behind the others or is in a new copy
with them (`write_spec`).
-/

namespace LogCollector

open Storage

namespace RotatingFile

variable {f f' f'' : RotatingFile} {text : String}

/-! ### Names of copies -/

/-- What stands behind the stem in the names for a copy. -/
def copySuffix (time : Calendar.Reading) : Nat → List Char
  | 0 => '-' :: (time.fileStamp ++ ['.', 'l', 'o', 'g'])
  | k + 1 => '-' :: (time.fileStamp ++ '_' :: (Numeral.ofNat (k + 1) ++ ['.', 'l', 'o', 'g']))

theorem copyName_eq (f : RotatingFile) (time : Calendar.Reading) (k : Nat) :
    f.copyName time k = f.stem ++ .ofList (copySuffix time k) := by
  rw [← String.toList_inj]
  cases k <;> simp [copyName, copySuffix, Numeral.text]

theorem copySuffix_injective {time : Calendar.Reading} {k l : Nat}
    (h : copySuffix time k = copySuffix time l) : k = l := by
  cases k with
  | zero =>
    cases l with
    | zero => rfl
    | succ l =>
      have hrest := List.append_cancel_left (List.cons.inj h).2
      exact absurd (List.cons.inj hrest).1 (by decide)
  | succ k =>
    cases l with
    | zero =>
      have hrest := List.append_cancel_left (List.cons.inj h).2
      exact absurd (List.cons.inj hrest).1 (by decide)
    | succ l =>
      have hrest := List.append_cancel_left (List.cons.inj h).2
      have hdigits := List.append_cancel_right (List.cons.inj hrest).2
      have hvalue := congrArg Numeral.digits? hdigits
      rw [Numeral.digits?_ofNat, Numeral.digits?_ofNat] at hvalue
      exact Option.some.inj hvalue

theorem slash_not_mem_copySuffix (time : Calendar.Reading) (k : Nat) : '/' ∉ copySuffix time k := by
  have hstamp : '/' ∉ time.fileStamp := by
    simp [Calendar.Reading.fileStamp, Calendar.Reading.not_mem_dashedDate,
      Numeral.not_mem_padded]
  cases k with
  | zero => simp [copySuffix, hstamp]
  | succ k => simp [copySuffix, hstamp, Numeral.not_mem_ofNat]

theorem two_le_length_copySuffix (time : Calendar.Reading) (k : Nat) :
    2 ≤ (copySuffix time k).length := by
  cases k with
  | zero => simp [copySuffix]
  | succ k => simp [copySuffix]; omega

/-- Different names for a copy are different paths in one folder. -/
theorem exists_parse_copyName (f : RotatingFile) (time : Calendar.Reading) : ∃ folder last, ∀ k,
    Path.parse (f.copyName time k) = folder ++ [String.ofList (last ++ copySuffix time k)] := by
  obtain ⟨folder, last, h⟩ := exists_parse_append f.stem
  refine ⟨folder, last, fun k => ?_⟩
  rw [copyName_eq, h _ (slash_not_mem_copySuffix time k) (two_le_length_copySuffix time k)]

theorem parse_copyName_ne_nil (f : RotatingFile) (time : Calendar.Reading) (k : Nat) :
    Path.parse (f.copyName time k) ≠ [] := by
  obtain ⟨folder, last, h⟩ := exists_parse_copyName f time
  rw [h]
  exact List.append_ne_nil_of_right_ne_nil folder (List.cons_ne_nil _ _)

theorem parse_copyName_injective {time : Calendar.Reading} {k l : Nat}
    (h : Path.parse (f.copyName time k) = Path.parse (f.copyName time l)) : k = l := by
  obtain ⟨folder, last, hparse⟩ := exists_parse_copyName f time
  rw [hparse, hparse] at h
  have hname := (List.cons.inj (List.append_cancel_left h)).1
  rw [← String.toList_inj, String.toList_ofList, String.toList_ofList] at hname
  exact copySuffix_injective (List.append_cancel_left hname)

/-- **The name that is chosen for a copy** is one of those for its time, and nothing exists under
it: there are fewer nodes than names. -/
theorem freeCopyName_spec (f : RotatingFile) (time : Calendar.Reading) :
    (∃ k, f.freeCopyName time = f.copyName time k) ∧
      f.directory.exists? (.parse (f.freeCopyName time)) = false := by
  unfold freeCopyName
  simp only
  cases hfound : ((List.range (f.directory.nodes.length + 2)).map (f.copyName time)).find?
      fun s => !f.directory.exists? (.parse s) with
  | some name =>
    have hfree := List.find?_some hfound
    obtain ⟨k, -, hk⟩ := List.mem_map.1 (List.mem_of_find?_eq_some hfound)
    exact ⟨⟨k, hk.symm⟩, by simpa using hfree⟩
  | none =>
    -- All names would be those of different nodes of the tree.
    exfalso
    rw [List.find?_eq_none] at hfound
    let paths := (List.range (f.directory.nodes.length + 2)).map fun k =>
      Path.parse (f.copyName time k)
    have hnodup : paths.Nodup :=
      List.Nodup.map (fun _ _ h => parse_copyName_injective h) List.nodup_range
    have hsubset : paths ⊆ f.directory.nodes.map Prod.fst := by
      intro p hp
      obtain ⟨k, hk, rfl⟩ := List.mem_map.1 hp
      have hexists := hfound _ (List.mem_map_of_mem hk)
      obtain ⟨x, hx⟩ := Directory.exists_of_exists? (by simpa using hexists)
      exact List.mem_map_of_mem (Directory.mem_of_node? (parse_copyName_ne_nil f time k) hx)
    have hlength := (List.subperm_of_subset hnodup hsubset).length_le
    simp only [paths, List.length_map, List.length_range] at hlength
    omega

theorem path_ne_nil (f : RotatingFile) : f.path ≠ [] := by
  obtain ⟨folder, last, h⟩ := exists_parse_append f.stem
  have hpath : f.path = folder ++ [String.ofList (last ++ ['.', 'l', 'o', 'g'])] :=
    h ['.', 'l', 'o', 'g'] (by decide) (by decide)
  rw [hpath]
  exact List.append_ne_nil_of_right_ne_nil folder (List.cons_ne_nil _ _)

/-! ### What a file holds -/

/-- The content of a node; only files have one. -/
def content : Option Node → String
  | some (.file content) => content
  | _ => ""

/-- What a file has taken since it was emptied last, buffered texts included. -/
def live (f : RotatingFile) : String := content (f.directory.node? f.path) ++ f.buffer

/-- The open file is the one that stands in the tree, or a device. -/
def Attached (f : RotatingFile) : Prop :=
  match f.handle with
  | .linked => ∃ held, f.directory.node? f.path = some (.file held)
  | .device => True
  | .unlinked => False

/-- A text has been put behind what a file holds, and no other node of the tree has changed. -/
structure Extends (f f' : RotatingFile) (text : String) : Prop where
  /-- It is a file under the same name. -/
  stem : f'.stem = f.stem
  /-- It has the same limit. -/
  limit : f'.limit = f.limit
  /-- The bytes have not been counted yet. -/
  written : f'.written = f.written
  /-- The text stands behind the others. -/
  live : f'.live = f.live ++ text
  /-- Nothing else has changed. -/
  others : ∀ q, q ≠ f.path → f'.directory.node? q = f.directory.node? q
  /-- It is still open. -/
  attached : f'.Attached

theorem path_of_stem (h : f'.stem = f.stem) : f'.path = f.path := by
  rw [path, path, name, name, h]

theorem Extends.path (h : Extends f f' text) : f'.path = f.path := path_of_stem h.stem

theorem Extends.trans {more : String} (h : Extends f f' text) (h' : Extends f' f'' more) :
    Extends f f'' (text ++ more) where
  stem := h'.stem.trans h.stem
  limit := h'.limit.trans h.limit
  written := h'.written.trans h.written
  live := by rw [h'.live, h.live, String.append_assoc]
  others q hq := (h'.others q (by rwa [h.path])).trans (h.others q hq)
  attached := h'.attached

theorem Extends.buffered (ha : f.Attached) (text : String) :
    Extends f { f with buffer := f.buffer ++ text } text where
  stem := rfl
  limit := rfl
  written := rfl
  live := (String.append_assoc ..).symm
  others _ _ := rfl
  attached := ha

/-! ### Writing texts out -/

/-- A text that is handed to the open file stands in the tree, before what is buffered. -/
theorem transfer_spec (ha : f.Attached) (h : f.transfer text = .ok f') :
    f' = { f with directory := f'.directory } ∧ f'.Attached ∧
      content (f'.directory.node? f.path) = content (f.directory.node? f.path) ++ text ∧
      ∀ q, q ≠ f.path → f'.directory.node? q = f.directory.node? q := by
  unfold transfer at h
  unfold Attached at ha
  split at h
  · rename_i hempty
    obtain rfl := Except.ok.inj h
    rw [String.isEmpty_iff.1 hempty]
    exact ⟨rfl, ha, String.append_empty.symm, fun _ _ => rfl⟩
  · split at h
    · cases h
    · rename_i hhandle
      rw [hhandle] at ha
      exact ha.elim
    · rename_i hhandle
      rw [hhandle] at ha
      obtain ⟨held, hheld⟩ := ha
      rw [hheld] at h
      obtain rfl := Except.ok.inj h
      have hput := Directory.node?_put f.directory (.file (held ++ text)) f.path_ne_nil
      refine ⟨rfl, ?_, ?_, fun q hq => Directory.node?_put_of_ne _ _ hq⟩
      · unfold Attached
        simp only [hhandle]
        exact ⟨_, hput⟩
      · rw [hheld]
        exact congrArg content hput

/-- Flushing moves what is buffered into the tree. -/
theorem flush_spec (ha : f.Attached) (h : f.flush = .ok f') :
    Extends f f' "" ∧ f'.buffer = "" := by
  unfold flush at h
  cases htransfer : f.transfer f.buffer with
  | error e =>
    rw [htransfer] at h
    cases h
  | ok g =>
    rw [htransfer] at h
    obtain rfl := Except.ok.inj h
    obtain ⟨hg, hattached, hcontent, hothers⟩ := transfer_spec ha htransfer
    have hpath : g.path = f.path := path_of_stem (by rw [hg])
    refine ⟨⟨by rw [hg], by rw [hg], by rw [hg], ?_, hothers, hattached⟩, rfl⟩
    change content (g.directory.node? g.path) ++ "" = f.live ++ ""
    rw [hpath, hcontent]
    rfl

/-- With nothing buffered, a text that is handed to the open file stands behind the others. -/
theorem transfer_extends (ha : f.Attached) (hempty : f.buffer = "")
    (h : f.transfer text = .ok f') : Extends f f' text := by
  obtain ⟨hf', hattached, hcontent, hothers⟩ := transfer_spec ha h
  have hpath : f'.path = f.path := path_of_stem (by rw [hf'])
  have hbuffer : f'.buffer = "" := by rw [hf', hempty]
  refine ⟨by rw [hf'], by rw [hf'], by rw [hf'], ?_, hothers, hattached⟩
  rw [live, live, hpath, hcontent, hbuffer, hempty, String.append_empty, String.append_empty]

/-- Room is made for a text that does not fit; then nothing is buffered in front of one that is as
long as the buffer. -/
theorem makeRoom_spec (ha : f.Attached)
    (hlarge : ¬ text.utf8ByteSize < capacity - f.buffer.utf8ByteSize)
    (h : (if capacity - f.buffer.utf8ByteSize < text.utf8ByteSize then f.flush else .ok f) =
      .ok f') : Extends f f' "" ∧ (capacity ≤ text.utf8ByteSize → f'.buffer = "") := by
  split at h
  · obtain ⟨hextends, hempty⟩ := flush_spec ha h
    exact ⟨hextends, fun _ => hempty⟩
  · obtain rfl := Except.ok.inj h
    refine ⟨⟨rfl, rfl, rfl, String.append_empty.symm, fun _ _ => rfl, ha⟩, fun hsize => ?_⟩
    -- A text as long as the buffer only fits when the buffer is empty.
    have hzero : f.buffer.utf8ByteSize = 0 := by
      unfold capacity at *
      omega
    exact String.utf8ByteSize_eq_zero_iff.1 hzero

/-- **A text that is pushed** stands behind the others, whether it is buffered or not. -/
theorem push_extends (ha : f.Attached) (h : f.push text = .ok f') : Extends f f' text := by
  unfold push at h
  simp only at h
  split at h
  · rw [← Except.ok.inj h]
    exact .buffered ha text
  · rename_i hlarge
    revert h
    cases hroom : (if capacity - f.buffer.utf8ByteSize < text.utf8ByteSize then f.flush
        else .ok f) with
    | error e => exact fun h => nomatch h
    | ok g =>
      intro h
      obtain ⟨hextends, hempty⟩ := makeRoom_spec ha hlarge hroom
      change (if capacity ≤ text.utf8ByteSize then g.transfer text
        else .ok { g with buffer := g.buffer ++ text }) = .ok f' at h
      have hpushed : Extends g f' text := by
        split at h
        · rename_i hsize
          exact transfer_extends hextends.attached (hempty hsize) h
        · rw [← Except.ok.inj h]
          exact .buffered hextends.attached text
      simpa using hextends.trans hpushed

/-! ### Writing a line -/

theorem copyName_of_stem (h : f'.stem = f.stem) (time : Calendar.Reading) (k : Nat) :
    f'.copyName time k = f.copyName time k := by
  rw [copyName_eq, copyName_eq, h]

/-- The open file has its name, and its bytes have been counted. -/
structure Sound (f : RotatingFile) : Prop where
  /-- It has its name. -/
  attached : f.Attached
  /-- Its bytes have been counted. -/
  counted : f.written = f.live.utf8ByteSize

/-- A rotation flushes the file, copies it to a free name and empties it. -/
theorem exists_of_rotate {time : Calendar.Reading} (h : f.rotate time = (.ok (), f')) :
    ∃ g d, f.flush = .ok g ∧ g.directory.copy g.path (.parse (g.freeCopyName time)) = .ok d ∧
      f' = { g with directory := d.put g.path (.file ""), handle := .linked, written := 0 } := by
  unfold rotate at h
  cases hflush : f.flush with
  | error e =>
    rw [hflush] at h
    cases h
  | ok g =>
    rw [hflush] at h
    cases hcopy : g.directory.copy g.path (.parse (g.freeCopyName time)) with
    | error e =>
      simp only [hcopy] at h
      cases h
    | ok d =>
      simp only [hcopy] at h
      exact ⟨g, d, rfl, hcopy, (Prod.mk.inj h).2.symm⟩

/-- **A rotation** puts what the file holds at a path at which nothing stands, and empties it. -/
theorem rotate_spec {time : Calendar.Reading} (ha : f.Attached)
    (h : f.rotate time = (.ok (), f')) :
    f'.Sound ∧ f'.stem = f.stem ∧ f'.limit = f.limit ∧ f'.live = "" ∧
      ∃ (k : Nat) (d : Directory), f.directory.node? (.parse (f.copyName time k)) = none ∧
        Path.parse (f.copyName time k) ≠ f.path ∧
        (∀ q, q ≠ f.path → d.node? q = f.directory.node? q) ∧
        f'.directory =
          (d.put (.parse (f.copyName time k)) (.file f.live)).put f.path (.file "") := by
  obtain ⟨g, d, hflush, hcopy, hf'⟩ := exists_of_rotate h
  obtain ⟨hextends, hbuffer⟩ := flush_spec ha hflush
  obtain ⟨⟨k, hname⟩, hfree⟩ := freeCopyName_spec g time
  obtain ⟨held, hheld, hnone, rfl⟩ := Directory.copy_eq_ok hcopy hfree
  have hlive : held = f.live := by
    have hsame : held ++ "" = f.live ++ "" := by
      rw [← hextends.live, live, hheld, hbuffer]
      rfl
    simpa using hsame
  rw [hname, copyName_of_stem hextends.stem] at hnone hf'
  rw [hlive, hextends.path] at hf'
  have hapart : Path.parse (f.copyName time k) ≠ f.path := by
    intro hsame
    rw [hsame, ← hextends.path, hheld] at hnone
    cases hnone
  have hstem : f'.stem = f.stem := by
    rw [hf']
    exact hextends.stem
  have hdirectory : f'.directory =
      (g.directory.put (.parse (f.copyName time k)) (.file f.live)).put f.path (.file "") := by
    rw [hf']
  have hnode : f'.directory.node? f'.path = some (.file "") := by
    rw [path_of_stem hstem, hdirectory, Directory.node?_put _ _ f.path_ne_nil]
  have hempty : f'.live = "" := by
    rw [live, hnode, hf']
    exact hbuffer
  have hattached : f'.Attached := by
    rw [hf'] at hnode ⊢
    exact ⟨_, hnode⟩
  have hcounted : f'.written = f'.live.utf8ByteSize := by
    rw [hempty, hf']
    rfl
  exact ⟨⟨hattached, hcounted⟩, hstem, by rw [hf']; exact hextends.limit, hempty, k, g.directory,
    (hextends.others _ hapart).symm.trans hnone, hapart, hextends.others, hdirectory⟩

/-- What a line that has been written has done: the tree beside the file is as before, or it has
one file more. -/
inductive Wrote (f f' : RotatingFile) (time : Calendar.Reading) (line : String) :
    List Change → Prop
  | appended (live : f'.live = f.live ++ (line ++ "\n"))
      (others : ∀ q, q ≠ f.path → f'.directory.node? q = f.directory.node? q) :
      Wrote f f' time line []
  | moved (k : Nat) (apart : Path.parse (f.copyName time k) ≠ f.path)
      (free : f.directory.node? (.parse (f.copyName time k)) = none)
      (copied : f'.directory.node? (.parse (f.copyName time k)) =
        some (.file (f.live ++ (line ++ "\n"))))
      (live : f'.live = "")
      (others : ∀ q, q ≠ f.path → q ≠ .parse (f.copyName time k) →
        f'.directory.node? q = f.directory.node? q) :
      Wrote f f' time line
        [⟨.parse (f.copyName time k), none, some (.file (f.live ++ (line ++ "\n")))⟩]

/-- A line is pushed, and then the file is rotated if its bytes are more than the limit. -/
theorem exists_of_write {time : Calendar.Reading} {line : String} (hs : f.Sound)
    (h : f.write time line = (.ok (), f')) :
    ∃ c : RotatingFile, c.Sound ∧ c.stem = f.stem ∧ c.limit = f.limit ∧
      c.live = f.live ++ (line ++ "\n") ∧
      (∀ q, q ≠ f.path → c.directory.node? q = f.directory.node? q) ∧
      (f.limit < c.written ∧ c.rotate time = (.ok (), f') ∨ c.written ≤ f.limit ∧ f' = c) := by
  unfold write at h
  cases hline : f.push line with
  | error e =>
    rw [hline] at h
    cases h
  | ok g =>
    have hg := push_extends hs.attached hline
    rw [hline] at h
    cases hend : g.push "\n" with
    | error e =>
      simp only [hend] at h
      cases h
    | ok e =>
      have he := hg.trans (push_extends hg.attached hend)
      simp only [hend] at h
      have hwritten : e.written + line.utf8ByteSize + 1 = e.live.utf8ByteSize := by
        rw [he.live, String.utf8ByteSize_append, String.utf8ByteSize_append, ← hs.counted,
          he.written, ← Nat.add_assoc]
        rfl
      have hlimit : e.limit = f.limit := he.limit
      -- The count of bytes does not matter for what the file holds.
      refine ⟨{ e with written := e.written + line.utf8ByteSize + 1 }, ⟨he.attached, hwritten⟩,
        he.stem, hlimit, he.live, he.others, ?_⟩
      split at h
      · rename_i hlarge
        refine .inl ⟨hlimit ▸ hlarge, ?_⟩
        revert h
        rcases rotate _ time with ⟨result, g'⟩
        cases result with
        | error e => exact fun h => nomatch (Prod.mk.inj h).1
        | ok _ => exact fun h => congrArg (Prod.mk _) (Prod.mk.inj h).2
      · rename_i hsmall
        exact .inr ⟨hlimit ▸ Nat.le_of_not_lt hsmall, (Prod.mk.inj h).2.symm⟩

/-- **A line that is written** stands behind the others, in the file or in a new copy. -/
theorem write_spec {time : Calendar.Reading} {line : String} (hs : f.Sound)
    (h : f.write time line = (.ok (), f')) :
    f'.Sound ∧ f'.stem = f.stem ∧ f'.limit = f.limit ∧ f'.written ≤ f.limit ∧
      Wrote f f' time line (f.directory.changes f'.directory f.path) := by
  obtain ⟨c, hsound, hstem, hlimit, hlive, hothers, ⟨-, hrotate⟩ | ⟨hsmall, rfl⟩⟩ :=
    exists_of_write hs h
  · obtain ⟨hsound', hstem', hlimit', hempty, k, d, hnone, hapart, hd, hdirectory⟩ :=
      rotate_spec hsound.attached hrotate
    rw [path_of_stem hstem, copyName_of_stem hstem] at hapart hdirectory
    rw [copyName_of_stem hstem] at hnone
    rw [path_of_stem hstem] at hd
    have hfree := (hothers _ hapart).symm.trans hnone
    have hne := parse_copyName_ne_nil f time k
    have hsame : ∀ q, q ≠ f.path → d.node? q = f.directory.node? q := fun q hq =>
      (hd q hq).trans (hothers q hq)
    refine ⟨hsound', hstem'.trans hstem, hlimit'.trans hlimit, ?_, ?_⟩
    · rw [hsound'.counted, hempty]
      exact Nat.zero_le _
    · rw [hdirectory, Directory.changes_put hsame hapart hne (by simp [hfree]), hfree, hlive]
      refine .moved k hapart hfree ?_ hempty fun q hq hq' => ?_
      · rw [hdirectory, Directory.node?_put_of_ne _ _ hapart, Directory.node?_put _ _ hne, hlive]
      · rw [hdirectory, Directory.node?_put_of_ne _ _ hq, Directory.node?_put_of_ne _ _ hq',
          hsame q hq]
  · refine ⟨hsound, hstem, hlimit, hsmall, ?_⟩
    rw [Directory.changes_eq_nil hothers]
    exact .appended hlive hothers

end RotatingFile

end LogCollector
