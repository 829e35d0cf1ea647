import UpnpBind.Fetch.Basic
import UpnpBind.Proofs.SlashPath

/-!
# Files read from a directory snapshot

A snapshot fetcher reads one file for a URL: the URL's path joined to the
snapshot directory and cleaned (`Fetch.snapshotFile`). Nothing keeps that file
inside the directory. The path of a URL keeps its ".." elements, and cleaning
lets each one cancel the element before it, the directory's own elements
included: for the URL `http://box/../secret.xml` the directory `snap` reads
`secret.xml` (`snapshot_file_climbs_out_of_dir`).

What holds (`snapshot_reads_stay_within_dir`): a path that never climbs above
its start, where each ".." cancels an element of the path itself, keeps the
read at or below any non-empty directory. The file read is then the directory
followed by plain elements (`IsWithin`), and the fetch depends on the disk only
through that file. The proof follows the stack that cleaning keeps: the
directory's elements are pushed first, and the path's elements that do not
climb push and pop only plain elements above them
(`cancelDots_of_not_climbsFrom`).
-/

namespace UpnpBind.Text

/-- Whether path elements, read from where they start, climb above it: a ".."
comes when none of the elements read before it is left to cancel. `depth`
counts the elements read and not cancelled yet. -/
def climbsFrom : Nat → List String → Bool
  | _, [] => false
  | depth, e :: es =>
    if e.isEmpty || e == "." then climbsFrom depth es
    else if e == ".." then
      match depth with
      | 0 => true
      | depth + 1 => climbsFrom depth es
    else climbsFrom (depth + 1) es

/-- Whether a path climbs above where it starts. -/
def climbs (p : String) : Bool := climbsFrom 0 (split p '/')

/-- A path names `dir` or a place below it: `dir` joined with plain elements. -/
def IsWithin (dir file : String) : Prop :=
  ∃ parts, (∀ e ∈ parts, PlainElement e) ∧ file = joinPath (dir :: parts)

/-- Elements that never climb above the plain elements `above` on top of the
stack push and cancel plain elements only, so the stack below them is kept. -/
theorem cancelDots_of_not_climbsFrom (rooted : Bool) (base : List String) {above es : List String}
    (habove : ∀ e ∈ above, PlainElement e) (hes : ∀ e ∈ es, '/' ∉ e.toList)
    (h : climbsFrom above.length es = false) :
    ∃ below, (∀ e ∈ below, PlainElement e) ∧ cancelDots rooted (above ++ base) es = below ++ base := by
  induction es generalizing above with
  | nil => exact ⟨above, habove, rfl⟩
  | cons e es ih =>
    have hes' : ∀ e ∈ es, '/' ∉ e.toList := fun e' he' => hes e' (List.mem_cons_of_mem _ he')
    by_cases hskip : (e.isEmpty || e == ".") = true
    · simp only [climbsFrom, hskip, if_true] at h
      simp only [cancelDots, hskip, if_true]
      exact ih habove hes' h
    by_cases hdot : (e == "..") = true
    · -- a ".." cancels the top element, which the path itself pushed and which is plain
      cases above with
      | nil => simp [climbsFrom, hskip, hdot] at h
      | cons top rest =>
        simp only [climbsFrom, hskip, hdot, if_true, Bool.false_eq_true, if_false, List.length_cons] at h
        have htop : (top == "..") = false := by
          simpa using (habove top (List.mem_cons_self ..)).ne_dotDot
        simp only [cancelDots, hskip, hdot, if_true, Bool.false_eq_true, if_false, List.cons_append, htop]
        exact ih (fun e' he' => habove e' (List.mem_cons_of_mem _ he')) hes' h
    · simp only [climbsFrom, hskip, hdot, if_false, Bool.false_eq_true] at h
      simp only [cancelDots, hskip, hdot, if_false, Bool.false_eq_true]
      have he : PlainElement e := by
        simp only [Bool.or_eq_true, beq_iff_eq, not_or] at hskip hdot
        exact ⟨fun h' => hskip.1 (by simp [h']), hskip.2, hdot, hes e (List.mem_cons_self ..)⟩
      have hpush : ∀ e' ∈ e :: above, PlainElement e' := by
        intro e' he'
        rcases List.mem_cons.mp he' with rfl | he'
        · exact he
        · exact habove e' he'
      exact ih hpush hes' (by simpa using h)

/-- Joined to a non-empty directory, a path that never climbs above its start
names the directory or a place below it. -/
theorem joinPath_isWithin {dir p : String} (hdir : dir ≠ "") (hp : climbs p = false) :
    IsWithin dir (joinPath [dir, p]) := by
  obtain ⟨below, hplain, hstack⟩ := @cancelDots_of_not_climbsFrom (dir.startsWith "/")
    (cancelDots (dir.startsWith "/") [] (split dir '/')) [] (split p '/') (by simp)
    (fun e he => not_mem_of_mem_split he) hp
  refine ⟨below.reverse, fun e he => hplain e (List.mem_reverse.mp he), ?_⟩
  -- the join cleans to the directory's stack with the path's plain elements on top
  have hleft : cancelDots (dir.startsWith "/") [] (split (dir ++ "/" ++ p) '/') =
      below ++ cancelDots (dir.startsWith "/") [] (split dir '/') := by
    rw [split_join, cancelDots_append, ← hstack, List.nil_append]
  rw [joinPath_cons _ hdir, joinPath_cons _ hdir, String.intercalate_cons_cons, String.intercalate_singleton]
  by_cases hne : below.reverse = []
  · -- nothing is left above the directory: the file is the directory itself
    rw [List.reverse_eq_nil_iff] at hne
    subst hne
    refine cleanPath_congr (startsWith_slash_join p hdir) rfl ?_
    rw [hleft, List.nil_append, List.reverse_nil, String.intercalate_singleton]
  · have hparts : ∀ e ∈ below.reverse, PlainElement e := fun e he => hplain e (List.mem_reverse.mp he)
    rw [String.intercalate_cons_of_ne_nil hne]
    refine cleanPath_congr (startsWith_slash_join p hdir) (startsWith_slash_join _ hdir) ?_
    rw [hleft, split_join, split_intercalate hne (fun e he => (hparts e he).no_slash), cancelDots_append,
      cancelDots_of_plain _ _ hparts, List.reverse_reverse]

end UpnpBind.Text

namespace UpnpBind.Fetch

/-- A snapshot fetch reads no file but the snapshot file of its URL: two disks
that hold the same for that file give the same fetch. -/
theorem fromDisk_reads_snapshotFile {disk disk' : Disk} {dir url : String} (cancelled : Bool)
    (h : disk.readFile (snapshotFile dir url) = disk'.readFile (snapshotFile dir url)) :
    fromDisk disk dir cancelled url = fromDisk disk' dir cancelled url := by
  simp only [fromDisk, h]

/-- For a non-empty snapshot directory and a URL whose path never climbs above
its start, the fetch reads only the snapshot file, and that file is the
directory or below it. -/
theorem snapshot_reads_stay_within_dir (dir url : String) (hdir : dir ≠ "")
    (hurl : Text.climbs (path url) = false) :
    Text.IsWithin dir (snapshotFile dir url) ∧
      ∀ (disk disk' : Disk) (cancelled : Bool),
        disk.readFile (snapshotFile dir url) = disk'.readFile (snapshotFile dir url) →
          fromDisk disk dir cancelled url = fromDisk disk' dir cancelled url :=
  ⟨Text.joinPath_isWithin hdir hurl, fun _ _ cancelled h => fromDisk_reads_snapshotFile cancelled h⟩

theorem snapshot_reads_of_description_url :
    "snap" ≠ "" ∧ Text.climbs (path "http://box/tr64desc.xml") = false ∧
      Text.IsWithin "snap" (snapshotFile "snap" "http://box/tr64desc.xml") :=
  have hdir : "snap" ≠ "" := by decide
  have hurl : Text.climbs (path "http://box/tr64desc.xml") = false := by decide
  ⟨hdir, hurl, (snapshot_reads_stay_within_dir _ _ hdir hurl).1⟩

/-- The URL `http://box/../secret.xml` climbs out of the snapshot directory
`snap`: the fetch reads `secret.xml`, which is not below `snap`. -/
theorem snapshot_file_climbs_out_of_dir :
    snapshotFile "snap" "http://box/../secret.xml" = "secret.xml" ∧ ¬ Text.IsWithin "snap" "secret.xml" ∧
      (fromDisk { files := [("secret.xml", "outside")] } "snap" false "http://box/../secret.xml").result.toOption =
        some "outside" := by
  refine ⟨by decide +kernel, ?_, by decide +kernel⟩
  rintro ⟨parts, hplain, heq⟩
  have hparts : ∀ e ∈ "snap" :: parts, Text.PlainElement e := by
    intro e he
    rcases List.mem_cons.mp he with rfl | he
    · decide
    · exact hplain e he
  -- a join below `snap` starts with `snap`, and `secret.xml` does not
  rw [Text.joinPath_of_plain (List.cons_ne_nil _ _) hparts] at heq
  obtain ⟨rest, hrest⟩ := Text.toList_intercalate_cons "snap" parts
  have hchars := congrArg String.toList heq
  rw [hrest] at hchars
  simp at hchars

end UpnpBind.Fetch
