import StickerPages.Disk

/-!
# Where a path leads

A path is followed on a disk, where every step needs a folder in front of it, or it is written out
without a disk. Both come to the same steps as long as the path stays inside, and a path that has
left never comes back (`follow_inside`). What is on the way is folders, and so a path that leads to
a file has gone straight to it from the folder it lies in: a neighbour's name in the place of the
last step leads to that neighbour (`exists_lies`).
-/

namespace StickerPages.Disk

variable {d : Disk} {ns ms steps : List String} {l : Location} {p : Path}

/-- Everything on the way to these steps is a folder. -/
structure Reached (d : Disk) (ns : List String) : Prop where
  folders : ∀ n < ns.length, d.isFolder (ns.take n) = true
  down : ".." ∉ ns

theorem reached_nil : d.Reached [] := ⟨nofun, List.not_mem_nil⟩

theorem Reached.concat (h : d.Reached ns) (hf : d.isFolder ns = true) {s : String} (hs : s ≠ "..") :
    d.Reached (ns ++ [s]) where
  folders n hn := by
    rw [List.length_append, List.length_singleton] at hn
    rcases Nat.lt_or_ge n ns.length with hlt | hge
    · rw [List.take_append_of_le_length (Nat.le_of_lt hlt)]
      exact h.folders n hlt
    · obtain rfl : n = ns.length := by omega
      rwa [List.take_left]
  down := by simpa using ⟨h.down, hs.symm⟩

theorem Reached.dropLast (h : d.Reached ns) : d.Reached ns.dropLast where
  folders n hn := by
    rw [List.length_dropLast] at hn
    have htake : ns.dropLast.take n = ns.take n := by
      rw [List.dropLast_eq_take, List.take_take]
      congr 1
      omega
    rw [htake]
    exact h.folders n (by omega)
  down hmem := h.down (List.dropLast_subset _ hmem)

/-- One step back is a folder. -/
theorem Reached.isFolder_dropLast (h : d.Reached ns) : d.isFolder ns.dropLast = true := by
  cases hns : ns with
  | nil => rfl
  | cons s r =>
      rw [List.dropLast_eq_take, ← hns]
      exact h.folders _ (by rw [hns]; simp)

/-! ## Following a path -/

theorem follow_append (xs ys : List String) :
    ∀ l, d.follow l (xs ++ ys) = (d.follow l xs).bind fun l => d.follow l ys := by
  induction xs with
  | nil => exact fun l => by rw [follow]; rfl
  | cons s r ih =>
      intro l
      cases l with
      | inside ns =>
          rw [List.cons_append, follow, follow]
          split
          · rfl
          · split
            · exact ih _
            · exact ih _
      | outside =>
          rw [List.cons_append, follow, follow]
          split
          · exact ih _
          · rfl

/-- Who has left does not come back. -/
theorem follow_outside (h : d.follow .outside steps = some l) : l = .outside := by
  induction steps with
  | nil =>
      rw [follow] at h
      exact (Option.some.inj h).symm
  | cons s r ih =>
      rw [follow] at h
      split at h
      · exact ih h
      · cases h

/-- **A path that stays inside leads where it leads when it is written out.** -/
theorem follow_inside (hr : d.Reached ns) (h : d.follow (.inside ns) steps = some (.inside ms)) :
    d.Reached ms ∧ steps.foldl Path.writeOutStep (some ns) = some ms := by
  induction steps generalizing ns with
  | nil =>
      rw [follow] at h
      cases h
      exact ⟨hr, rfl⟩
  | cons s r ih =>
      rw [follow] at h
      split at h
      · cases h
      · next hfolder =>
        have hfolder : d.isFolder ns = true := by simpa using hfolder
        split at h
        · next hup =>
          split at h
          · cases follow_outside h
          · next hne =>
            obtain ⟨hms, hout⟩ := ih hr.dropLast h
            refine ⟨hms, ?_⟩
            rw [List.foldl_cons, Path.writeOutStep, if_pos hup, if_neg hne, hout]
        · next hdown =>
          obtain ⟨hms, hout⟩ := ih (hr.concat hfolder (by simpa using hdown)) h
          refine ⟨hms, ?_⟩
          rw [List.foldl_cons, Path.writeOutStep, if_neg hdown, hout]

theorem follow_single (hf : d.isFolder ns = true) {s : String} (hs : s ≠ "..") :
    d.follow (.inside ns) [s] = some (.inside (ns ++ [s])) := by
  rw [follow, if_neg (by simp [hf]), if_neg (by simpa using hs), follow]

theorem follow_reached :
    ∀ {front : List String}, d.Reached (front ++ steps) →
      d.follow (.inside front) steps = some (.inside (front ++ steps)) := by
  induction steps with
  | nil => exact fun _ => by rw [follow, List.append_nil]
  | cons s r ih =>
      intro front h
      have hs : s ≠ ".." := fun hs => h.down (by simp [hs])
      have hfolder : d.isFolder front = true := by
        have htake := h.folders front.length (by simp)
        rwa [List.take_left] at htake
      rw [List.append_cons] at h ⊢
      rw [← List.singleton_append, follow_append, follow_single hfolder hs, Option.bind_some, ih h]

/-! ## Files and their neighbours -/

/-- A path leads to a name in a folder, and other names in its place lead to that folder too. -/
structure Lies (d : Disk) (p : Path) (folder : List String) (name : String) : Prop where
  writtenOut : p.writtenOut? = some (folder ++ [name])
  beside : ∀ other, other ≠ ".." →
    d.locate (p.parent.child other) = some (.inside (folder ++ [other])) ∧
      (p.parent.child other).writtenOut? = some (folder ++ [other]) ∧
      d.locate ⟨false, folder ++ [other]⟩ = some (.inside (folder ++ [other]))

/-- The last step to what is no folder goes down. -/
theorem follow_last {s : String} (hr : d.Reached ns) (hfile : d.isFolder ms = false)
    (h : d.follow (.inside ns) [s] = some (.inside ms)) : d.isFolder ns = true ∧ s ≠ ".." := by
  rw [follow] at h
  split at h
  · cases h
  · next hfolder =>
    refine ⟨by simpa using hfolder, ?_⟩
    rintro rfl
    rw [if_pos (beq_self_eq_true _), follow] at h
    split at h
    · cases h
    · obtain rfl : ns.dropLast = ms := by simpa using h
      rw [hr.isFolder_dropLast] at hfile
      cases hfile

theorem locate_of_readText {text : String} (h : d.readText p = .ok text) :
    ∃ ns, d.locate p = some (.inside ns) ∧ d.isFolder ns = false := by
  unfold readText at h
  split at h
  · next ns hns =>
    split at h
    · cases h
    · next hfile => exact ⟨ns, hns, by simpa using hfile⟩
  · cases h
  · cases h

/-- **A path to a file lies in a folder.** Its last step does not lead back, since what lies there
would be a folder. -/
theorem exists_lies {text : String} (h : d.readText p = .ok text) :
    ∃ folder name, d.Lies p folder name := by
  obtain ⟨ns, hlocate, hfile⟩ := locate_of_readText h
  obtain ⟨absolute, steps⟩ := p
  have hrelative : absolute = false := by
    cases absolute with
    | false => rfl
    | true => cases follow_outside hlocate
  subst hrelative
  have hfollow : d.follow (.inside []) steps = some (.inside ns) := hlocate
  rcases List.eq_nil_or_concat steps with rfl | ⟨front, last, rfl⟩
  · rw [follow] at hfollow
    cases hfollow
    cases hfile
  · rw [List.concat_eq_append, follow_append] at hfollow
    obtain ⟨l, hfront, hlast⟩ := Option.bind_eq_some_iff.mp hfollow
    cases l with
    | outside => cases follow_outside hlast
    | inside folder =>
        obtain ⟨hreached, hout⟩ := follow_inside reached_nil hfront
        obtain ⟨hfolder, hname⟩ := follow_last hreached hfile hlast
        refine ⟨folder, last, ?_, fun other hother => ⟨?_, ?_, ?_⟩⟩
        · simp [Path.writtenOut?, List.foldl_append, hout, Path.writeOutStep, hname]
        · simp [locate, Path.parent, Path.child, follow_append, hfront,
            follow_single hfolder hother]
        · simp [Path.writtenOut?, Path.parent, Path.child, List.foldl_append, hout,
            Path.writeOutStep, hother]
        · have hbeside : d.Reached ([] ++ (folder ++ [other])) := hreached.concat hfolder hother
          exact follow_reached hbeside

end StickerPages.Disk
