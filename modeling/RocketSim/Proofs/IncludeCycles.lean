import Mathlib
import RocketSim.Definition.Writer
import RocketSim.Proofs.SimRuns
import RocketSim.Proofs.TextLaws

/-!
# Include cycles through a parent directory

A definition file names the files it includes by paths taken in its own directory, and the
reader refuses a file whose path is already on the stack of files being read.  The stack holds
paths as they are spelled: the path library keeps `..` parts, and only the file system takes
them back when a file is read (`Paths.resolve`).  A file that includes itself through its parent
directory, as `sub/a.mapleaf` does with `!include ../sub/a.mapleaf`, is reached at every pass by
a spelling two parts longer than the last (`cyclePath`), and all of them lead to the one file.
The circular-reference check never fires; reading ends when the files nest deeper than the
reader allows, with the depth fault.

* `splitOn_intercalate`, `normalize_intercalate`, `parent_intercalate`: splitting, normalizing
  and taking the directory of a path joined from parts.
* `run_resolve_cycle`: every spelling leads to `<tmp>/sub/a.mapleaf`.
* `run_absolute_cycle`: the include, read in the file of one spelling, names the next.
* `run_loadFile_cycle`: with no later spelling on the stack, reading the include fails with the
  depth fault at every depth.
* `load_selfIncludeThroughParent_recursionError`: reading the file fails with the depth fault,
  never with the circular-reference fault, whatever depth the reader allows.
-/

namespace RocketSim
namespace Str

/-- Splitting at a one-character separator, given more fuel than characters, is the list
library's split at that character. -/
theorem splitList_go_single {c : Char} :
    ∀ (xs cur : List Char) (fuel : Nat), xs.length < fuel →
      splitList.go [c] fuel cur xs = List.splitOnPPrepend (· == c) xs cur
  | _, _, 0, h => absurd h (Nat.not_lt_zero _)
  | [], cur, fuel + 1, _ => by simp [splitList.go]
  | x :: rest, cur, fuel + 1, h => by
    have hrest : rest.length < fuel := by simp at h; omega
    by_cases hx : x = c
    · rw [splitList.go, if_pos (by simp [listStartsWith, hx]),
        List.splitOnPPrepend_cons_pos (by simp [hx]), List.length_singleton, List.drop_one,
        List.tail_cons, splitList_go_single rest [] fuel hrest]
      rfl
    · rw [splitList.go, if_neg (by simp [listStartsWith, hx]),
        List.splitOnPPrepend_cons_neg (by simp [hx]), splitList_go_single rest _ fuel hrest]

/-- Splitting at a one-character separator is the list library's split. -/
theorem splitOn_single {sep : String} {c : Char} (hsep : sep.toList = [c]) (s : String) :
    splitOn s sep = (s.toList.splitOn c).map String.ofList := by
  rw [splitOn, hsep, splitList, splitList_go_single _ _ _ (Nat.lt_succ_self _)]
  rfl

/-- Parts without the separator, joined by it, split back into the parts. -/
theorem splitOn_intercalate {sep : String} {c : Char} (hsep : sep.toList = [c])
    {ps : List String} (hne : ps ≠ []) (hc : ∀ p ∈ ps, c ∉ p.toList) :
    splitOn (sep.intercalate ps) sep = ps := by
  rw [splitOn_single hsep, String.toList_intercalate, hsep,
    List.splitOn_intercalate c (by simpa using hc) (by simpa using hne)]
  simp

/-- The last occurrence of `/` in characters that hold none is the one found so far. -/
theorem rfindStr_go_absent : ∀ {m : List Char} (i : Nat) (best : Option Nat), '/' ∉ m →
    rfindStr.go "/" i best m = best
  | [], _, _, _ => rfl
  | x :: m, i, best, h => by
    have hx : x ≠ '/' := fun hx => h (hx ▸ List.mem_cons_self)
    rw [rfindStr.go, if_neg (by simp [listStartsWith, hx]),
      rfindStr_go_absent (i + 1) best (fun hm => h (List.mem_cons_of_mem x hm))]

/-- The last `/` of characters whose last part holds none is the one before that part. -/
theorem rfindStr_go_last : ∀ (l : List Char) {m : List Char} (i : Nat) (best : Option Nat),
    '/' ∉ m → rfindStr.go "/" i best (l ++ '/' :: m) = some (i + l.length)
  | [], m, i, best, h => by
    rw [List.nil_append, rfindStr.go, if_pos (by simp [listStartsWith]), rfindStr_go_absent _ _ h]
    rfl
  | x :: l, m, i, best, h => by
    rw [List.cons_append, rfindStr.go, rfindStr_go_last l (i + 1) _ h, List.length_cons,
      Nat.add_right_comm, Nat.add_assoc]

end Str

namespace Paths

theorem toList_slash : "/".toList = ['/'] := rfl

/-- A path part of a normalized path: neither empty nor `.`, and without `/`. -/
def IsPart (p : String) : Prop := p ≠ "" ∧ p ≠ "." ∧ '/' ∉ p.toList

instance : DecidablePred IsPart := fun _ => inferInstanceAs (Decidable (_ ∧ _ ∧ _))

/-- A path joined from parts, the first of them a part, starts with a character other
than `/`. -/
theorem IsPart.intercalate_head {p : String} (hp : IsPart p) (rest : List String) :
    ∃ c t, ("/".intercalate (p :: rest)).toList = c :: t ∧ c ≠ '/' := by
  obtain ⟨c, cs, hcs⟩ := List.exists_cons_of_ne_nil (mt String.toList_eq_nil_iff.1 hp.1)
  have hc : c ≠ '/' := fun h => hp.2.2 (by simp [hcs, h])
  cases rest with
  | nil => exact ⟨c, cs, by simp [hcs], hc⟩
  | cons q rest =>
    exact ⟨c, cs ++ ("/" ++ "/".intercalate (q :: rest)).toList,
      by simp [String.intercalate_cons_cons, hcs], hc⟩

/-- Parts joined by `/` form a normalized path. -/
theorem normalize_intercalate {ps : List String} (hne : ps ≠ []) (hps : ∀ p ∈ ps, IsPart p) :
    normalize ("/".intercalate ps) = "/".intercalate ps := by
  have hsplit : Str.splitOn ("/".intercalate ps) "/" = ps :=
    Str.splitOn_intercalate toList_slash hne fun p hp => (hps p hp).2.2
  have hkept : ps.filter (fun s => s != "" && s != ".") = ps :=
    List.filter_eq_self.2 fun p hp => by simp [(hps p hp).1, (hps p hp).2.1]
  obtain ⟨p, rest, rfl⟩ := List.exists_cons_of_ne_nil hne
  obtain ⟨c, t, ht, hc⟩ := (hps p List.mem_cons_self).intercalate_head rest
  have hroot : Str.startsWith ("/".intercalate (p :: rest)) "/" = false := by
    simp [Str.startsWith, ht, Str.listStartsWith, hc]
  have hbody : ("/".intercalate (p :: rest)).isEmpty = false := by
    rw [String.isEmpty_eq_false_iff, ne_eq, ← String.toList_eq_nil_iff, ht]
    simp
  simp only [normalize, hsplit, hkept, hroot, hbody]
  rfl

/-- The directory of a path joined from parts is the path of all parts but the last. -/
theorem parent_intercalate {ps : List String} (hne : ps ≠ []) (hps : ∀ p ∈ ps, IsPart p)
    {n : String} (hn : '/' ∉ n.toList) :
    parent ("/".intercalate (ps ++ [n])) = "/".intercalate ps := by
  have htext : ("/".intercalate (ps ++ [n])).toList =
      ("/".intercalate ps).toList ++ '/' :: n.toList := by
    rw [String.intercalate_append_of_ne_nil hne (List.cons_ne_nil _ _)]
    simp
  have hlen : ("/".intercalate ps).toList.length ≠ 0 := by
    obtain ⟨p, rest, rfl⟩ := List.exists_cons_of_ne_nil hne
    obtain ⟨c, t, ht, -⟩ := (hps p List.mem_cons_self).intercalate_head rest
    simp [ht]
  rw [parent, Str.rfindStr, htext, Str.rfindStr_go_last _ _ _ hn, Nat.zero_add]
  simp only [beq_iff_eq, hlen, if_false, Str.take, htext, List.take_left', String.ofList_toList]

/-- The part of a path below a root directory, when it is written under the root. -/
theorem below_slash (root r : String) : below root (root ++ "/" ++ r) = some r := by
  have htext : (root ++ "/" ++ r).toList = (root ++ "/").toList ++ r.toList := by simp
  have hlen : (root ++ "/").toList.length = root.length + 1 := by simp [String.length_toList]
  have hne : (root ++ "/" ++ r == root) = false := by
    rw [beq_eq_false_iff_ne]
    intro h
    have := congrArg (·.toList.length) h
    simp only [htext, List.length_append, hlen, String.length_toList] at this
    omega
  have hstart : Str.startsWith (root ++ "/" ++ r) (root ++ "/") = true := by
    rw [Str.startsWith, htext]
    exact Str.listStartsWith_append_self _ _
  rw [below, if_neg (by simp [hne]), if_pos hstart, Str.drop, htext, List.drop_left' hlen,
    String.ofList_toList]

/-- A path of the working directory lies outside the repository. -/
theorem below_root_working (r : String) :
    below Repository.root (workingDirectory ++ "/" ++ r) = none := by
  have hne : (workingDirectory ++ "/" ++ r == Repository.root) = false := by
    rw [beq_eq_false_iff_ne]
    intro h
    have := congrArg (·.toList.head?) h
    simp [Repository.root, workingDirectory] at this
  rw [below, if_neg (by simp [hne])]
  simp [Repository.root, workingDirectory, Str.startsWith, Str.listStartsWith]

end Paths

namespace Sim

/-- Reading a file of the working directory looks it up in the session and changes nothing. -/
theorem run_readFile? (path : String) (σ : Session) :
    (readFile? path).run σ = (.ok ((σ.files.find? (·.1 == path)).map (·.2)), σ) := rfl

/-- A computation of the session's contents reads them and changes nothing. -/
theorem run_map_get {α : Type} (g : Session → α) (σ : Session) :
    (g <$> get : Sim α).run σ = (.ok (g σ), σ) := rfl

variable {σ : Session} {f : Option (List String) → String → Sim (Option (List String))}

/-- A fold over pairs `..`, `sub`, each stepping out of the directory `sub` and back in, ends
where it started. -/
theorem run_foldlM_outAndIn (hout : (f (some ["sub"]) "..").run σ = (.ok (some []), σ))
    (hin : (f (some []) "sub").run σ = (.ok (some ["sub"]), σ)) :
    ∀ k, (((List.replicate k ["..", "sub"]).flatten).foldlM f (some ["sub"])).run σ =
      (.ok (some ["sub"]), σ)
  | 0 => rfl
  | k + 1 => by
    rw [List.replicate_succ, List.flatten_cons, List.foldlM_append]
    simp only [List.foldlM_cons, List.foldlM_nil, run_bind, hout, hin]
    exact run_foldlM_outAndIn hout hin k

/-- A fold over parts each entering a directory ends with them entered, innermost first. -/
theorem run_foldlM_enter {t : List String}
    (hin : ∀ dirs, ∀ x ∈ t, (f (some dirs) x).run σ = (.ok (some (x :: dirs)), σ)) :
    ∀ dirs, (t.foldlM f (some dirs)).run σ = (.ok (some (t.reverse ++ dirs)), σ) := by
  induction t with
  | nil => intro dirs; rfl
  | cons x t ih =>
    intro dirs
    rw [List.foldlM_cons, run_bind, hin dirs x List.mem_cons_self]
    simp only
    rw [ih (fun dirs y hy => hin dirs y (List.mem_cons_of_mem x hy))]
    simp

end Sim

namespace Definition

open Paths

/-! ## A file that includes itself through its parent directory -/

/-- A session whose working directory holds the file `sub/a.mapleaf`, which includes itself
through its parent directory, and no file named `sub`. -/
structure SelfIncluding (σ : Session) : Prop where
  reads : (σ.files.find? (·.1 == "sub/a.mapleaf")).map (·.2) = some "!include ../sub/a.mapleaf\n"
  noFileSub : ∀ e ∈ σ.files, e.1 ≠ "sub"

/-- The directory parts of the path by which `sub/a.mapleaf` is named after `k` passes
through its include: `<tmp>/sub`, then `../sub` `k` times. -/
def cycleDirParts (k : Nat) : List String :=
  ["<tmp>", "sub"] ++ (List.replicate k ["..", "sub"]).flatten

/-- The path by which `sub/a.mapleaf` is named after `k` passes through its include. -/
def cyclePath (k : Nat) : String := "/".intercalate (cycleDirParts k ++ ["a.mapleaf"])

theorem cycleDirParts_ne_nil (k : Nat) : cycleDirParts k ≠ [] := by simp [cycleDirParts]

theorem cycleDirParts_isPart (k : Nat) : ∀ p ∈ cycleDirParts k, IsPart p := by
  intro p hp
  simp only [cycleDirParts, List.mem_append, List.mem_flatten, List.mem_replicate] at hp
  rcases hp with hp | ⟨l, ⟨-, rfl⟩, hp⟩ <;>
    simp only [List.mem_cons, List.not_mem_nil, or_false] at hp <;>
    rcases hp with rfl | rfl <;> decide

theorem cyclePath_isPart (k : Nat) : ∀ p ∈ cycleDirParts k ++ ["a.mapleaf"], IsPart p := by
  intro p hp
  rcases List.mem_append.1 hp with hp | hp
  · exact cycleDirParts_isPart k p hp
  · rw [List.mem_singleton.1 hp]; decide

theorem normalize_cyclePath (k : Nat) : normalize (cyclePath k) = cyclePath k :=
  normalize_intercalate (by simp [cycleDirParts]) (cyclePath_isPart k)

/-- Spellings after different numbers of passes differ: each pass adds two parts. -/
theorem cyclePath_injective : Function.Injective cyclePath := by
  intro j k h
  have hparts : cycleDirParts j ++ ["a.mapleaf"] = cycleDirParts k ++ ["a.mapleaf"] := by
    rw [← Str.splitOn_intercalate toList_slash (by simp) fun p hp => (cyclePath_isPart j p hp).2.2,
      ← Str.splitOn_intercalate toList_slash (by simp) fun p hp => (cyclePath_isPart k p hp).2.2]
    exact congrArg (Str.splitOn · "/") h
  have hlen := congrArg List.length hparts
  simp [cycleDirParts] at hlen
  omega

theorem normalize_cycleDir (k : Nat) :
    normalize ("/".intercalate (cycleDirParts k)) = "/".intercalate (cycleDirParts k) :=
  normalize_intercalate (cycleDirParts_ne_nil k) (cycleDirParts_isPart k)

theorem parent_cyclePath (k : Nat) : parent (cyclePath k) = "/".intercalate (cycleDirParts k) :=
  parent_intercalate (cycleDirParts_ne_nil k) (cycleDirParts_isPart k) (by decide)

/-- A spelling, or its directory followed by more parts, is a path of the working directory. -/
theorem intercalate_cycleDirParts (k : Nat) (t : List String) :
    "/".intercalate (cycleDirParts k ++ t) = workingDirectory ++ "/" ++
      "/".intercalate ("sub" :: ((List.replicate k ["..", "sub"]).flatten ++ t)) := by
  rw [cycleDirParts, List.append_assoc, List.cons_append, List.cons_append,
    String.intercalate_cons_of_ne_nil (by simp)]
  rfl

/-- The directory of a spelling starts with the working directory's first character. -/
theorem cycleDir_head (k : Nat) :
    ("/".intercalate (cycleDirParts k)).toList.head? = some '<' := by
  rw [← List.append_nil (cycleDirParts k), intercalate_cycleDirParts]
  simp [workingDirectory]

/-- The next spelling is this one's directory followed by the include's path. -/
theorem cyclePath_succ (k : Nat) :
    cyclePath (k + 1) = "/".intercalate (cycleDirParts k) ++ "/" ++ "../sub/a.mapleaf" := by
  have hparts : cycleDirParts (k + 1) ++ ["a.mapleaf"] =
      cycleDirParts k ++ ["..", "sub", "a.mapleaf"] := by
    simp [cycleDirParts, List.replicate_succ']
  rw [cyclePath, hparts, String.intercalate_append_of_ne_nil (cycleDirParts_ne_nil k) (by simp)]
  rfl

section Session

variable {σ : Session} (hσ : SelfIncluding σ)
include hσ

theorem SelfIncluding.mem : ("sub/a.mapleaf", "!include ../sub/a.mapleaf\n") ∈ σ.files := by
  obtain ⟨⟨name, text⟩, he, htext⟩ := Option.map_eq_some_iff.1 hσ.reads
  have hname : name = "sub/a.mapleaf" := by simpa using List.find?_some he
  subst hname htext
  exact List.mem_of_find?_eq_some he

/-- The working directory's `sub` holds a file, so it is a directory. -/
theorem SelfIncluding.run_isDirectory : (isDirectory "<tmp>/sub").run σ = (.ok true, σ) := by
  have hany : σ.files.any (fun file => Str.startsWith file.1 "sub/") = true :=
    List.any_eq_true.2 ⟨_, hσ.mem, by decide⟩
  have hrepo : below Repository.root "<tmp>/sub" = none := by decide
  have hwork : below workingDirectory "<tmp>/sub" = some "sub" := by decide
  simp only [isDirectory, Sim.run_bind, Sim.run_get, hrepo, hwork]
  simp [hany]
  rfl

/-- Every spelling, followed by parts that enter directories, leads to the path those parts
take from `<tmp>/sub`: each `..` steps back out of the `sub` entered just before it. -/
theorem run_resolve_cycle (k : Nat) {t : List String} (ht : ∀ x ∈ t, IsPart x ∧ x ≠ "..") :
    (resolve ("/".intercalate (cycleDirParts k ++ t))).run σ =
      (.ok (some ("/".intercalate ("<tmp>" :: "sub" :: t))), σ) := by
  have hslash : ∀ p ∈ cycleDirParts k ++ t, '/' ∉ p.toList := fun p hp => by
    rcases List.mem_append.1 hp with hp | hp
    exacts [(cycleDirParts_isPart k p hp).2.2, (ht p hp).1.2.2]
  have hsplit : Str.splitOn ("/".intercalate (cycleDirParts k ++ t)) "/" = cycleDirParts k ++ t :=
    Str.splitOn_intercalate toList_slash (by simp [cycleDirParts]) hslash
  cases k with
  | zero =>
    -- no `..` part: the path is its own resolution
    have hplain : (cycleDirParts 0 ++ t).contains ".." = false := by
      simpa [cycleDirParts] using fun h => (ht ".." h).2 rfl
    rw [resolve, hsplit, if_pos (by rw [hplain]; rfl)]
    rfl
  | succ k =>
    have hback : (cycleDirParts (k + 1) ++ t).contains ".." = true := by
      simp [cycleDirParts, List.replicate_succ]
    rw [resolve, hsplit, if_neg (by rw [hback]; decide), intercalate_cycleDirParts,
      below_root_working, below_slash]
    dsimp only
    rw [Sim.run_bind, Str.splitOn_intercalate toList_slash (by simp) fun p hp => ?_,
      List.foldlM_cons]
    · have hsub : ("sub" == "..") = false := rfl
      simp only [hsub, pure_bind, List.foldlM_append]
      rw [Sim.run_bind, Sim.run_foldlM_outAndIn ?out ?into]
      · simp only
        rw [Sim.run_foldlM_enter ?enter]
        · simp [workingDirectory]
          rfl
        · intro dirs x hx
          have hx : (x == "..") = false := beq_false_of_ne (ht x hx).2
          simp only [hx]
          rfl
      · have hdot : (".." == "..") = true := rfl
        have hdir : "/".intercalate (workingDirectory :: ["sub"].reverse) = "<tmp>/sub" := rfl
        simp only [hdot, hdir, Sim.run_bind, hσ.run_isDirectory]
        rfl
      · simp only [hsub]
        rfl
    · exact hslash p (List.mem_cons_of_mem _ hp)

/-- The directory of every spelling is a directory, not a file. -/
theorem run_isFile_cycleDir (k : Nat) :
    (isFile ("/".intercalate (cycleDirParts k))).run σ = (.ok false, σ) := by
  have hresolve := run_resolve_cycle hσ k (t := []) (by simp)
  rw [List.append_nil] at hresolve
  have hrepo : below Repository.root "<tmp>/sub" = none := by decide
  have hwork : below workingDirectory "<tmp>/sub" = some "sub" := by decide
  have hnone : σ.files.find? (·.1 == "sub") = none :=
    List.find?_eq_none.2 fun e he => by simpa using hσ.noFileSub e he
  have hdir : "/".intercalate ["<tmp>", "sub"] = "<tmp>/sub" := rfl
  simp only [isFile, Sim.run_bind, hresolve, hdir, hrepo, hwork]
  simp only [workingFile, Sim.run_bind, Sim.run_readFile?, hnone]
  rfl

/-- Every spelling leads to the file `sub/a.mapleaf` of the working directory. -/
theorem run_resolve_cyclePath (k : Nat) :
    (resolve (cyclePath k)).run σ = (.ok (some "<tmp>/sub/a.mapleaf"), σ) :=
  run_resolve_cycle hσ k (by decide)

/-- Every spelling names a file that exists. -/
theorem run_present_cyclePath (k : Nat) : (present (cyclePath k)).run σ = (.ok true, σ) := by
  have hrepo : below Repository.root "<tmp>/sub/a.mapleaf" = none := by decide
  have hwork : below workingDirectory "<tmp>/sub/a.mapleaf" = some "sub/a.mapleaf" := by decide
  simp only [present, Sim.run_bind, run_resolve_cyclePath hσ, hrepo, hwork, workingEntry]
  simp [Sim.run_map_get]
  exact ⟨_, ⟨_, hσ.mem⟩, Or.inl rfl⟩

/-- Every spelling reads as the text of `sub/a.mapleaf`. -/
theorem run_readText_cyclePath (k : Nat) :
    (readText (cyclePath k)).run σ = (.ok "!include ../sub/a.mapleaf\n", σ) := by
  have hrepo : below Repository.root "<tmp>/sub/a.mapleaf" = none := by decide
  have hwork : below workingDirectory "<tmp>/sub/a.mapleaf" = some "sub/a.mapleaf" := by decide
  simp only [readText, Paths.readText, Sim.run_bind, normalize_cyclePath, run_resolve_cyclePath hσ,
    hrepo, hwork, Sim.run_readFile?, hσ.reads]
  rfl

/-- The include `../sub/a.mapleaf`, read in the file of a spelling, names the next spelling:
the path is taken in the spelling's own directory, `..` and all. -/
theorem run_absolute_cycle (k : Nat) :
    (absolute "../sub/a.mapleaf" (parent (normalize (cyclePath k)))).run σ =
      (.ok (cyclePath (k + 1)), σ) := by
  have hrel : normalize "../sub/a.mapleaf" = "../sub/a.mapleaf" := by decide
  have hrepo : join Repository.root "../sub/a.mapleaf" = "/repo/../sub/a.mapleaf" := by decide
  have houtside : (present "/repo/../sub/a.mapleaf").run σ = (.ok false, σ) := rfl
  have hne : ("/".intercalate (cycleDirParts k) != "") = true := by
    have := cycleDir_head k
    simp only [bne_iff_ne, ne_eq]
    rintro h
    simp [h] at this
  have hdot : ("/".intercalate (cycleDirParts k) == ".") = false := by
    have := cycleDir_head k
    rw [beq_eq_false_iff_ne]
    rintro h
    simp [h] at this
  have hjoin : join ("/".intercalate (cycleDirParts k)) "../sub/a.mapleaf" = cyclePath (k + 1) := by
    have hrelative : isAbsolute "../sub/a.mapleaf" = false := by decide
    rw [join, if_neg (by simp [hrelative]), if_neg (by decide), if_neg (by simp [hdot]),
      cyclePath_succ]
  rw [normalize_cyclePath, parent_cyclePath]
  unfold absolute
  simp only [hrel, hrepo, Sim.run_bind, houtside, normalize_cycleDir, if_false, hne, if_true,
    run_isFile_cycleDir hσ, Bool.false_eq_true, pure_bind, hjoin, run_present_cyclePath hσ]
  rfl

end Session

/-- An `!include` line reads the file it names before the lines after it. -/
theorem parseLines_include {load : String → Sim Definition} {fileName : String}
    {lines : Array String} {i : Nat} (h : i < lines.size)
    (hc : ¬((Str.splitWs (Str.strip lines[i])).head? == some "!create") = true)
    (hi : ((Str.splitWs (Str.strip lines[i])).head? == some "!include") = true)
    (opened : List OpenDict) (es : List (String × Value)) :
    parseLines load fileName lines i opened es = (do
      let sub ← load (← includedPath (Str.strip lines[i]))
      parseLines load fileName lines (i + 1) opened
        (withIncluded es ((opened.head?.map (·.name)).getD "") sub.entries)) := by
  rw [parseLines.eq_def, dif_pos h]
  simp only [hc, hi, if_true, if_false, Bool.false_eq_true]

/-- A file whose one line includes `../sub/a.mapleaf` fails as reading that file fails. -/
theorem run_parseText_include {load : String → Sim Definition} {fileName : String}
    {e : Fault} {σ σ' : Session} (h : (load "../sub/a.mapleaf").run σ = (.error e, σ')) :
    (parseText load fileName "!include ../sub/a.mapleaf\n").run σ = (.error e, σ') := by
  have hlines : contentLines "!include ../sub/a.mapleaf\n" = #["!include ../sub/a.mapleaf"] := by
    decide
  have hpath : includedPath (Str.strip "!include ../sub/a.mapleaf") = pure "../sub/a.mapleaf" :=
    rfl
  rw [parseText, parseContentLines, hlines, parseLines_include (by decide) (by decide) (by decide)]
  simp only [List.getElem_toArray, List.getElem_cons_zero, hpath, pure_bind, Sim.run_bind, h]

section Cycle

variable {σ : Session} (hσ : SelfIncluding σ)
include hσ

/-- Reading the include of `sub/a.mapleaf` in its file of the `k`-th spelling, with no later
spelling on the stack, fails with the depth fault whatever depth is left: each pass pushes a
spelling not yet on the stack, so the circular-reference check never fires. -/
theorem run_loadFile_cycle : ∀ (fuel k : Nat) (stack : List String),
    (∀ j, k < j → cyclePath j ∉ stack) →
      (loadFile fuel (cyclePath k) stack "../sub/a.mapleaf").run σ =
        (.error (Fault.bare (.other "RecursionError")), σ)
  | 0, _, _, _ => rfl
  | fuel + 1, k, stack, hfresh => by
    have hnew : stack.contains (cyclePath (k + 1)) = false := by
      simpa using hfresh (k + 1) (Nat.lt_succ_self k)
    have hnext : ∀ j, k + 1 < j → cyclePath j ∉ stack ++ [cyclePath (k + 1)] := by
      intro j hj hmem
      rcases List.mem_append.1 hmem with hmem | hmem
      · exact hfresh j (by omega) hmem
      · have := cyclePath_injective (List.mem_singleton.1 hmem)
        omega
    rw [loadFile]
    simp only [Sim.run_bind, run_absolute_cycle hσ, hnew, Bool.false_eq_true, if_false,
      run_readText_cyclePath hσ,
      run_parseText_include (run_loadFile_cycle fuel (k + 1) _ hnext)]

/-- A definition file that includes itself through its parent directory is never caught as a
circular reference: reading it fails with the depth fault, and so it does whatever depth the
reader allows, the session unchanged. -/
theorem load_selfIncludeThroughParent_recursionError (silent sampling : Bool) :
    (load "<tmp>/sub/a.mapleaf" silent sampling).run σ =
        (.error (Fault.bare (.other "RecursionError")), σ) ∧
      ∀ fuel, (loadFile fuel "<tmp>/sub/a.mapleaf" ["<tmp>/sub/a.mapleaf"]
          "../sub/a.mapleaf").run σ = (.error (Fault.bare (.other "RecursionError")), σ) := by
  have hfirst : "<tmp>/sub/a.mapleaf" = cyclePath 0 := rfl
  have hfresh : ∀ j, 0 < j → cyclePath j ∉ [cyclePath 0] := fun j hj hmem =>
    Nat.ne_of_gt hj (cyclePath_injective (List.mem_singleton.1 hmem))
  refine ⟨?_, fun fuel => hfirst ▸ run_loadFile_cycle hσ fuel 0 _ hfresh⟩
  rw [hfirst, load, parseFile]
  simp only [Sim.run_bind, run_readText_cyclePath hσ,
    run_parseText_include (run_loadFile_cycle hσ parseDepth 0 _ hfresh)]

end Cycle

/-- A fresh session in which only the self-including file has been written. -/
def selfIncludingSession : Session := { files := [("sub/a.mapleaf", "!include ../sub/a.mapleaf\n")] }

theorem load_selfIncludeThroughParent_freshSession :
    SelfIncluding selfIncludingSession ∧
      ((load "<tmp>/sub/a.mapleaf" true true).run selfIncludingSession =
          (.error (Fault.bare (.other "RecursionError")), selfIncludingSession) ∧
        ∀ fuel, (loadFile fuel "<tmp>/sub/a.mapleaf" ["<tmp>/sub/a.mapleaf"]
            "../sub/a.mapleaf").run selfIncludingSession =
          (.error (Fault.bare (.other "RecursionError")), selfIncludingSession)) :=
  have h : SelfIncluding selfIncludingSession := ⟨rfl, by decide⟩
  ⟨h, load_selfIncludeThroughParent_recursionError h true true⟩

end Definition

end RocketSim
