import LogCollector.Proofs.Sink.Rotation

/-!
# Rotation keeps every line

The copies of a file, in the order in which they were made, and what it holds after them are its
first content and then every line, none of them cut apart. Nothing that stood in the tree elsewhere
is touched, and the count of bytes agrees with what the file holds and does not exceed the limit
(`rotation_keeps_lines`). Each line that is written preserves all this (`Keeps.step`).
-/

namespace LogCollector

open Storage

namespace RotatingFile

variable {f f' : RotatingFile} {start : Directory} {stem : String} {limit : Nat}
  {writes : List (Calendar.Reading × String)} {copies : List Change}

/-! ### Lines in files -/

/-- Lines as they stand in a file. -/
def textOf (lines : List String) : String := .join (lines.map (· ++ "\n"))

/-- The contents of files that hold the lines of one piece each, a text standing before the lines
of the first one. -/
def laidOut (first : String) (pieces : List (List String)) : List String :=
  (pieces.map textOf).modifyHead (first ++ ·)

theorem textOf_append (lines more : List String) :
    textOf (lines ++ more) = textOf lines ++ textOf more := by
  rw [textOf, List.map_append, String.join_append]
  rfl

theorem textOf_line (lines : List String) (line : String) :
    textOf (lines ++ [line]) = textOf lines ++ (line ++ "\n") := by
  rw [textOf_append]
  simp [textOf]

/-- What stands in the last file goes on with the last piece. -/
theorem exists_laidOut_append (first : String) (pieces : List (List String)) : ∃ files held,
    ∀ piece, laidOut first (pieces ++ [piece]) = files ++ [held ++ textOf piece] := by
  cases pieces with
  | nil => exact ⟨[], first, fun _ => rfl⟩
  | cons p pieces =>
    refine ⟨laidOut first (p :: pieces), "", fun piece => ?_⟩
    rw [laidOut, List.cons_append, List.map_cons, List.map_append, String.empty_append]
    rfl

/-- A line behind the last piece stands at the end of the last file. -/
theorem laidOut_line {first last : String} {pieces : List (List String)} {piece files : List String}
    (h : laidOut first (pieces ++ [piece]) = files ++ [last]) (line : String) :
    laidOut first (pieces ++ [piece ++ [line]]) = files ++ [last ++ (line ++ "\n")] := by
  obtain ⟨files', held, hlaid⟩ := exists_laidOut_append first pieces
  rw [hlaid] at h
  obtain ⟨rfl, hlast⟩ := List.append_inj' h rfl
  rw [hlaid, textOf_line, ← String.append_assoc, List.singleton_inj.1 hlast]

/-- A piece without lines is a file without text. -/
theorem laidOut_cut {first : String} {pieces : List (List String)} (h : pieces ≠ []) :
    laidOut first (pieces ++ [[]]) = laidOut first pieces ++ [""] := by
  cases pieces with
  | nil => exact absurd rfl h
  | cons p pieces =>
    rw [laidOut, List.cons_append, List.map_cons, List.map_append]
    rfl

/-! ### Writing lines -/

/-- Writes lines at their times. Given back is also what has changed in the tree beside the file,
in the order in which it has. -/
def writeAll (f : RotatingFile) :
    List (Calendar.Reading × String) → Except SinkFault (RotatingFile × List Change)
  | [] => .ok (f, [])
  | (time, line) :: writes =>
    match f.write time line with
    | (.error e, _) => .error e
    | (.ok (), f') => (f'.writeAll writes).map fun (g, changes) =>
      (g, f.directory.changes f'.directory f.path ++ changes)

/-- What a file that has been opened keeps while lines are written to it. -/
structure Keeps (start : Directory) (stem : String) (limit : Nat)
    (writes : List (Calendar.Reading × String)) (copies : List Change) (f : RotatingFile) :
    Prop where
  /-- It is the file under the name for which it was opened. -/
  stem_eq : f.stem = stem
  /-- It has the limit with which it was opened. -/
  limit_eq : f.limit = limit
  /-- The open file has its name, and its bytes have been counted. -/
  sound : f.Sound
  /-- They are not more than the limit once a line has been written. -/
  bounded : writes ≠ [] → f.written ≤ limit
  /-- The copies and what the file holds are the first content and the lines. -/
  whole : content (start.node? f.path) ++ textOf (writes.map Prod.snd) =
    .join (copies.map (content ·.after)) ++ f.live
  /-- Each of the files holds a piece of the lines. -/
  unsplit : ∃ pieces : List (List String), pieces.flatten = writes.map Prod.snd ∧
    laidOut (content (start.node? f.path)) pieces = copies.map (content ·.after) ++ [f.live]
  /-- Each copy has a name for the time of a line. -/
  named : ∀ c ∈ copies, ∃ write ∈ writes, ∃ k, c.path = .parse (f.copyName write.1 k)
  /-- Nothing stood there before it was made. -/
  free : ∀ c ∈ copies, c.before = none
  /-- It is a file that still stands there as it was made. -/
  copied : ∀ c ∈ copies, c.path ≠ f.path ∧
    ∃ text, c.after = some (.file text) ∧ f.directory.node? c.path = some (.file text)
  /-- What stood in the tree beside the file stands there as it was. -/
  standing : ∀ q x, q ≠ f.path → start.node? q = some x → f.directory.node? q = some x
  /-- Nothing but the copies has come to it. -/
  others : ∀ q, q ≠ f.path → (∀ c ∈ copies, c.path ≠ q) →
    f.directory.node? q = start.node? q

/-- A file that has been opened holds its first content, and nothing beside it has changed. -/
theorem openAt_spec (h : openAt start stem limit = .ok f) :
    f.stem = stem ∧ f.limit = limit ∧ f.Sound ∧ f.live = content (start.node? f.path) ∧
      ∀ q, q ≠ f.path → f.directory.node? q = start.node? q := by
  unfold openAt at h
  simp only at h
  split at h
  · cases h
  · rename_i hfind
    obtain rfl := Except.ok.inj h
    have hnode := Directory.node?_of_find hfind
    have hput := Directory.node?_put start (.file "")
      (path_ne_nil ⟨start, stem, limit, .linked, "", 0⟩)
    have hempty : live ⟨start.put _ (.file ""), stem, limit, .linked, "", 0⟩ = "" :=
      congrArg (content · ++ "") hput
    refine ⟨rfl, rfl, ⟨⟨_, hput⟩, ?_⟩, ?_, fun q hq => Directory.node?_put_of_ne _ _ hq⟩
    · exact (congrArg String.utf8ByteSize hempty).symm
    · exact hempty.trans (congrArg content hnode).symm
  · rename_i held hfind
    obtain rfl := Except.ok.inj h
    have hnode := Directory.node?_of_find hfind
    have hheld : live ⟨start, stem, limit, .linked, "", held.utf8ByteSize⟩ = held :=
      (congrArg (content · ++ "") hnode).trans String.append_empty
    refine ⟨rfl, rfl, ⟨⟨_, hnode⟩, ?_⟩, ?_, fun _ _ => rfl⟩
    · exact (congrArg String.utf8ByteSize hheld).symm
    · exact hheld.trans (congrArg content hnode).symm
  · rename_i hfind
    obtain rfl := Except.ok.inj h
    have hnode := Directory.node?_of_find hfind
    have hempty : live ⟨start, stem, limit, .device, "", 0⟩ = "" :=
      congrArg (content · ++ "") hnode
    refine ⟨rfl, rfl, ⟨trivial, ?_⟩, ?_, fun _ _ => rfl⟩
    · exact (congrArg String.utf8ByteSize hempty).symm
    · exact hempty.trans (congrArg content hnode).symm
  · cases h

theorem openAt_keeps (h : openAt start stem limit = .ok f) : Keeps start stem limit [] [] f := by
  obtain ⟨hstem, hlimit, hsound, hlive, hothers⟩ := openAt_spec h
  exact {
    stem_eq := hstem
    limit_eq := hlimit
    sound := hsound
    bounded := fun h => absurd rfl h
    whole := by rw [hlive]; simp [textOf]
    unsplit := ⟨[[]], rfl, by rw [hlive]; simp [laidOut, textOf]⟩
    named := fun _ hc => nomatch hc
    free := fun _ hc => nomatch hc
    copied := fun _ hc => nomatch hc
    standing := fun q x hq hx => (hothers q hq).trans hx
    others := fun q hq _ => hothers q hq }

/-! ### One more line -/

section

variable {time : Calendar.Reading} {line : String} (hk : Keeps start stem limit writes copies f)
include hk

/-- With one more line the copies and what the file holds are the first content and the lines. -/
theorem Keeps.whole_line :
    content (start.node? f.path) ++ textOf ((writes ++ [(time, line)]).map Prod.snd) =
      .join (copies.map (content ·.after)) ++ (f.live ++ (line ++ "\n")) := by
  rw [List.map_append, List.map_singleton, textOf_line, ← String.append_assoc, hk.whole,
    String.append_assoc]

/-- The line belongs to the last piece. -/
theorem Keeps.unsplit_line (time : Calendar.Reading) (line : String) :
    ∃ pieces : List (List String), pieces ≠ [] ∧
    pieces.flatten = (writes ++ [(time, line)]).map Prod.snd ∧
    laidOut (content (start.node? f.path)) pieces =
      copies.map (content ·.after) ++ [f.live ++ (line ++ "\n")] := by
  obtain ⟨pieces, hlines, hlaid⟩ := hk.unsplit
  have hnonempty : pieces ≠ [] := by
    rintro rfl
    exact absurd hlaid (by simp [laidOut])
  obtain ⟨moved, piece, rfl⟩ := (List.eq_nil_or_concat pieces).resolve_left hnonempty
  rw [List.concat_eq_append] at hlines hlaid
  refine ⟨moved ++ [piece ++ [line]], by simp, ?_, laidOut_line hlaid line⟩
  rw [List.map_append, ← hlines]
  simp

/-- The names of the copies are those for the times of lines. -/
theorem Keeps.named_line (hstem : f'.stem = f.stem) : ∀ c ∈ copies,
    ∃ write ∈ writes ++ [(time, line)], ∃ k, c.path = .parse (f'.copyName write.1 k) := by
  intro c hc
  obtain ⟨write, hwrite, k, hname⟩ := hk.named c hc
  exact ⟨write, List.mem_append_left _ hwrite, k, by rw [hname, copyName_of_stem hstem]⟩

/-- What is kept by a line that stands behind the others. -/
theorem Keeps.appended (hsound : f'.Sound) (hstem : f'.stem = f.stem) (hlimit : f'.limit = f.limit)
    (hbounded : f'.written ≤ f.limit) (hlive : f'.live = f.live ++ (line ++ "\n"))
    (hothers : ∀ q, q ≠ f.path → f'.directory.node? q = f.directory.node? q) :
    Keeps start stem limit (writes ++ [(time, line)]) copies f' := by
  have hpath : f'.path = f.path := path_of_stem hstem
  obtain ⟨pieces, -, hlines, hlaid⟩ := hk.unsplit_line time line
  exact {
    stem_eq := hstem.trans hk.stem_eq
    limit_eq := hlimit.trans hk.limit_eq
    sound := hsound
    bounded := fun _ => hk.limit_eq ▸ hbounded
    whole := by rw [hpath, hk.whole_line, hlive]
    unsplit := ⟨pieces, hlines, by rw [hpath, hlaid, hlive]⟩
    named := hk.named_line hstem
    free := hk.free
    copied := fun c hc => by
      rw [hpath, hothers _ (hk.copied c hc).1]
      exact hk.copied c hc
    standing := fun q x hq hx => by
      rw [hpath] at hq
      rw [hothers q hq]
      exact hk.standing q x hq hx
    others := fun q hq hc => by
      rw [hpath] at hq
      rw [hothers q hq]
      exact hk.others q hq hc }

/-- What is kept by a line that has been moved away with the others. -/
theorem Keeps.moved (k : Nat) (hsound : f'.Sound) (hstem : f'.stem = f.stem)
    (hlimit : f'.limit = f.limit) (hbounded : f'.written ≤ f.limit)
    (hapart : Path.parse (f.copyName time k) ≠ f.path)
    (hfree : f.directory.node? (.parse (f.copyName time k)) = none)
    (hcopied : f'.directory.node? (.parse (f.copyName time k)) =
      some (.file (f.live ++ (line ++ "\n"))))
    (hlive : f'.live = "")
    (hothers : ∀ q, q ≠ f.path → q ≠ .parse (f.copyName time k) →
      f'.directory.node? q = f.directory.node? q) :
    Keeps start stem limit (writes ++ [(time, line)])
      (copies ++ [⟨.parse (f.copyName time k), none, some (.file (f.live ++ (line ++ "\n")))⟩])
      f' := by
  have hpath : f'.path = f.path := path_of_stem hstem
  obtain ⟨pieces, hnonempty, hlines, hlaid⟩ := hk.unsplit_line time line
  -- The name is free, so that it is not that of a copy made before.
  have hnew : ∀ c ∈ copies, c.path ≠ .parse (f.copyName time k) := by
    intro c hc hsame
    obtain ⟨-, text, -, hnode⟩ := hk.copied c hc
    rw [hsame, hfree] at hnode
    cases hnode
  exact {
    stem_eq := hstem.trans hk.stem_eq
    limit_eq := hlimit.trans hk.limit_eq
    sound := hsound
    bounded := fun _ => hk.limit_eq ▸ hbounded
    whole := by
      rw [hpath, hk.whole_line, hlive, List.map_append, String.join_append]
      simp [content]
    unsplit := by
      refine ⟨pieces ++ [[]], by simpa using hlines, ?_⟩
      rw [hpath, laidOut_cut hnonempty, hlaid, hlive, List.map_append]
      rfl
    named := List.forall_mem_append.2 ⟨hk.named_line hstem, by
      rw [List.forall_mem_singleton]
      exact ⟨_, List.mem_append_right _ (List.mem_singleton_self _), k,
        by rw [copyName_of_stem hstem]⟩⟩
    free := List.forall_mem_append.2 ⟨hk.free, by rw [List.forall_mem_singleton]⟩
    copied := by
      rw [List.forall_mem_append, List.forall_mem_singleton, hpath]
      refine ⟨fun c hc => ?_, hapart, _, rfl, hcopied⟩
      rw [hothers _ (hk.copied c hc).1 (hnew c hc)]
      exact hk.copied c hc
    standing := fun q x hq hx => by
      rw [hpath] at hq
      have hstood := hk.standing q x hq hx
      have hq' : q ≠ .parse (f.copyName time k) := by
        rintro rfl
        rw [hfree] at hstood
        cases hstood
      rw [hothers q hq hq', hstood]
    others := fun q hq hc => by
      rw [hpath] at hq
      rw [List.forall_mem_append, List.forall_mem_singleton] at hc
      rw [hothers q hq hc.2.symm, hk.others q hq hc.1] }

/-- **What is kept by one line.** -/
theorem Keeps.step (h : f.write time line = (.ok (), f')) :
    Keeps start stem limit (writes ++ [(time, line)])
      (copies ++ f.directory.changes f'.directory f.path) f' := by
  obtain ⟨hsound, hstem, hlimit, hbounded, hwrote⟩ := write_spec hk.sound h
  generalize f.directory.changes f'.directory f.path = changes at hwrote ⊢
  cases hwrote with
  | appended hlive hothers =>
    rw [List.append_nil]
    exact hk.appended hsound hstem hlimit hbounded hlive hothers
  | moved k hapart hfree hcopied hlive hothers =>
    exact hk.moved k hsound hstem hlimit hbounded hapart hfree hcopied hlive hothers

end

/-! ### All lines -/

/-- What is kept by lines that are written one after another. -/
theorem Keeps.run {more : List (Calendar.Reading × String)} {changes : List Change}
    (hk : Keeps start stem limit writes copies f) (h : f.writeAll more = .ok (f', changes)) :
    Keeps start stem limit (writes ++ more) (copies ++ changes) f' := by
  induction more generalizing f writes copies changes with
  | nil =>
    obtain ⟨rfl, rfl⟩ := Prod.mk.inj (Except.ok.inj h)
    simpa using hk
  | cons write more ih =>
    obtain ⟨time, line⟩ := write
    rw [writeAll] at h
    split at h
    · cases h
    · rename_i g hwrite
      cases hrest : g.writeAll more with
      | error e =>
        rw [hrest] at h
        cases h
      | ok written =>
        obtain ⟨e, changes'⟩ := written
        rw [hrest] at h
        obtain ⟨rfl, rfl⟩ := Prod.mk.inj (Except.ok.inj h)
        simpa using ih (hk.step hwrite) hrest

/-- **Rotation keeps every line.** When a file is opened and lines are written to it, whatever the
tree, the limit, the lines and their times are, then its first content and the lines are the copies
that have been made and what it holds, none of the lines is cut apart, each copy has been made where
nothing stood, nothing else in the tree has changed, and the bytes of what the file holds have been
counted and are not more than the limit. -/
theorem rotation_keeps_lines (hopen : openAt start stem limit = .ok f)
    (h : f.writeAll writes = .ok (f', copies)) : Keeps start stem limit writes copies f' := by
  simpa using (openAt_keeps hopen).run h

/-- Lines of several bytes a character, and one that is longer than the limit, at one second for
which there is a copy already. -/
theorem rotation_keeps_lines_same_second :
    let time : Calendar.Reading := ⟨⟨2024, 5, 6⟩, 7, 8, 9⟩
    let start : Directory :=
      ⟨[(["fw1.log"], .file "old\n"), (["fw1-2024-05-06_070809.log"], .file "kept")]⟩
    let writes := [(time, "ab"), (time, "한글"), (time, "line of text"), (time, "é")]
    ∃ f f' copies, openAt start "fw1" 12 = .ok f ∧ f.writeAll writes = .ok (f', copies) ∧
      copies.map Change.path = [["fw1-2024-05-06_070809_1.log"], ["fw1-2024-05-06_070809_2.log"]] ∧
      f'.live = "é\n" ∧ Keeps start "fw1" 12 writes copies f' :=
  let time : Calendar.Reading := ⟨⟨2024, 5, 6⟩, 7, 8, 9⟩
  let beside := (["fw1-2024-05-06_070809.log"], Node.file "kept")
  let first := (["fw1-2024-05-06_070809_1.log"], Node.file "old\nab\n한글\n")
  let second := (["fw1-2024-05-06_070809_2.log"], Node.file "line of text\n")
  let f : RotatingFile := ⟨⟨[(["fw1.log"], .file "old\n"), beside]⟩, "fw1", 12, .linked, "", 4⟩
  let f' : RotatingFile :=
    ⟨⟨[(["fw1.log"], .file ""), second, first, beside]⟩, "fw1", 12, .linked, "é\n", 3⟩
  let writes := [(time, "ab"), (time, "한글"), (time, "line of text"), (time, "é")]
  let copies : List Change :=
    [⟨first.1, none, some first.2⟩, ⟨second.1, none, some second.2⟩]
  have hopen : openAt ⟨[(["fw1.log"], .file "old\n"), beside]⟩ "fw1" 12 = .ok f := by decide +kernel
  have hwrite : f.writeAll writes = .ok (f', copies) := by decide +kernel
  ⟨f, f', copies, hopen, hwrite, by decide +kernel, by decide +kernel,
    rotation_keeps_lines hopen hwrite⟩

end RotatingFile

end LogCollector
