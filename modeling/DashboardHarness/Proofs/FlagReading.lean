import DashboardHarness.Cli.Commands
import DashboardHarness.Proofs.Calls

/-!
# What reading the command line changes

A run finds its command by walking down the tree along the words of its arguments, then reads
the flags of that command from the arguments left, one argument at a time. Both leave alone what
the arguments do not touch. A command of the root with nothing under it, named by the first
argument, is found with the arguments after its name. Reading the flags sets only the flags the
arguments name, so a key that no argument names, as a long flag or by a shorthand letter, keeps
its value.

Main results:

- `findCommand_leaf`: the first argument naming `login`, `probe` or `fixture` selects that
  command with the rest of the arguments.
- `readShorthands_get`: a shorthand group keeps every key none of its letters names, and leaves
  a suffix of the arguments after it.
- `readFlags_get`: reading the flags keeps every key that no argument names.
-/

namespace DashboardHarness.Cli

/-! ## Finding a command -/

section Words

variable {flags : List Flag} {w : String} {args : List String}

/-- A word that is not empty, not a flag and not the end of the flags names a command. -/
theorem commandWords_plain (hend : w ≠ "--") (htakes : takesNext flags w = false)
    (hempty : w.isEmpty = false) (hdash : w.startsWith "-" = false) :
    commandWords flags (w :: args) = w :: commandWords flags args := by
  rw [commandWords.eq_def]
  simp [hend, htakes, hempty, hdash]

theorem dropWord_plain (hend : w ≠ "--") (htakes : takesNext flags w = false)
    (hdash : w.startsWith "-" = false) : dropWord flags w (w :: args) = args := by
  rw [dropWord.eq_def]
  simp [hend, htakes, hdash]

end Words

/-- A command with nothing under it ends the walk down the tree. -/
theorem descend_leaf {c : Command} (hc : c.children = []) (hroot : c ≠ .root)
    (requesting : Bool) : ∀ n args, descend requesting n c args = (c, args)
  | 0, _ => rfl
  | n + 1, args => by
    have hnone : ∀ word, childNamed requesting c word = none := by
      intro word
      simp [childNamed, Command.reachable, hc, hroot]
    unfold descend
    split <;> simp [hnone]

/-- A command of the root with nothing under it, named by the first argument, is found with the
arguments that follow its name. -/
theorem findCommand_leaf {c : Command} (hc : c ∈ [Command.login, .probe, .fixture])
    (args : List String) : findCommand true (c.name :: args) = .ok (c, args) := by
  have hfacts : ∀ c ∈ [Command.login, .probe, .fixture], c.name ≠ "--" ∧
      takesNext (findingFlags .root) c.name = false ∧ c.name.isEmpty = false ∧
      c.name.startsWith "-" = false ∧ childNamed true .root c.name = some c ∧
      c.children = [] ∧ c ≠ .root := by
    decide +kernel
  obtain ⟨hend, htakes, hempty, hdash, hchild, hleaf, hroot⟩ := hfacts c hc
  have hdescend : descend true 3 .root (c.name :: args) = (c, args) := by
    rw [descend, commandWords_plain hend htakes hempty hdash]
    simp only [hchild, dropWord_plain hend htakes hdash, descend_leaf hleaf hroot]
  simp [findCommand, hdescend, hroot]

/-! ## Reading flags -/

/-- The flag name that a long flag argument gives: what follows its two dashes, up to an equals
sign. -/
def longFlagName (s : String) : String :=
  String.ofList ((s.toList.drop 2).span (· ≠ '=')).1

/-- An argument that, read as a flag, sets no flag whose name `keep` holds: read as a long flag
it names none, and read as a shorthand group none of its letters is the shorthand of one. -/
structure LeavesKeys (flags : List Flag) (keep : String → Prop) (s : String) : Prop where
  long : s.startsWith "--" = true → ¬keep (longFlagName s)
  short : s.startsWith "-" = true → s.startsWith "--" = false →
    ∀ c ∈ s.toList.drop 1, ∀ g, findShorthand flags c = some g → ¬keep g.name

theorem findFlag_name {flags : List Flag} {name : String} {f : Flag}
    (h : findFlag flags name = some f) : f.name = name := by
  simpa using List.find?_some h

theorem setFlag_eq_ok {set set' : Setting} {f : Flag} {s : String}
    (h : setFlag set f s = .ok set') : ∃ v, f.read s = .ok v ∧ set' = Keyed.set f.name v set := by
  unfold setFlag at h
  split at h
  · rename_i v hv
    cases h
    exact ⟨v, hv, rfl⟩
  · cases h

variable {flags : List Flag} {keep : String → Prop}

/-- Setting a flag whose name `keep` does not hold keeps every key it holds. -/
theorem setFlag_get {set set' : Setting} {f : Flag} {s : String}
    (h : setFlag set f s = .ok set') (hf : ¬keep f.name) :
    ∀ k, keep k → Keyed.get? k set' = Keyed.get? k set := by
  intro k hk
  obtain ⟨v, -, rfl⟩ := setFlag_eq_ok h
  exact Keyed.get_set_ne (fun (he : f.name = k) => hf (he ▸ hk)) v set

theorem map_pair_eq_ok {e : Except String Setting} {after after' : List String} {s : Setting}
    (h : e.map (fun setting => (setting, after)) = .ok (s, after')) :
    e = .ok s ∧ after' = after := by
  cases e with
  | error _ => cases h
  | ok s' =>
    cases h
    exact ⟨rfl, rfl⟩

/-- A shorthand group keeps every key that none of its letters names, and what it leaves of the
arguments after it is a suffix of them. The induction is on the letters of the group: a truth
value hands the rest of the group on, every other flag ends the group. -/
theorem readShorthands_get {rest : List String} :
    ∀ {chars : List Char} {setting setting' : Setting} {after : List String},
      (∀ c ∈ chars, ∀ g, findShorthand flags c = some g → ¬keep g.name) →
      readShorthands flags setting chars rest = .ok (setting', after) →
      (∀ k, keep k → Keyed.get? k setting' = Keyed.get? k setting) ∧ after <:+ rest
  | [], _, _, _, _, h => by
    cases h
    exact ⟨fun _ _ => rfl, List.suffix_refl _⟩
  | c :: more, setting, setting', after, hchars, h => by
    unfold readShorthands at h
    split at h
    · cases h
      exact ⟨fun _ _ => rfl, List.suffix_refl _⟩
    split at h
    · cases h
    rename_i f hf
    have hname : ¬keep f.name := hchars c List.mem_cons_self f hf
    have hmore : ∀ d ∈ more, ∀ g, findShorthand flags d = some g → ¬keep g.name :=
      fun d hd => hchars d (List.mem_cons_of_mem _ hd)
    split at h
    · obtain ⟨hset, rfl⟩ := map_pair_eq_ok h
      exact ⟨setFlag_get hset hname, List.suffix_refl _⟩
    split at h
    · split at h
      · cases h
      rename_i set₁ hset
      obtain ⟨hkeep, hafter⟩ := readShorthands_get hmore h
      refine ⟨fun k hk => ?_, hafter⟩
      rw [hkeep k hk, setFlag_get hset hname k hk]
    split at h
    · obtain ⟨hset, rfl⟩ := map_pair_eq_ok h
      exact ⟨setFlag_get hset hname, List.suffix_refl _⟩
    split at h
    · obtain ⟨hset, rfl⟩ := map_pair_eq_ok h
      exact ⟨setFlag_get hset hname, List.suffix_cons _ _⟩
    · cases h

/-- Reading the flags keeps every key that no argument names. The induction is on the fuel of
the reader, one case for each kind of argument: a plain word, the end of the flags, a long flag
and a shorthand group. -/
theorem readFlags_get :
    ∀ {fuel : Nat} {r r' : Reading} {args : List String},
      (∀ s ∈ args, LeavesKeys flags keep s) → readFlags flags fuel r args = .ok r' →
      ∀ k, keep k → Keyed.get? k r'.setting = Keyed.get? k r.setting
  | 0, r, r', args, _, h => by
    cases h
    exact fun _ _ => rfl
  | fuel + 1, r, r', [], _, h => by
    cases h
    exact fun _ _ => rfl
  | fuel + 1, r, r', s :: rest, hargs, h => by
    have hs := hargs s List.mem_cons_self
    have hrest : ∀ s ∈ rest, LeavesKeys flags keep s :=
      fun s' hs' => hargs s' (List.mem_cons_of_mem _ hs')
    rw [readFlags.eq_def] at h
    simp only at h
    split at h
    · exact (readFlags_get hrest h :)
    split at h
    · cases h
      exact fun _ _ => rfl
    split at h
    · rename_i hlong
      have hname : ¬keep (longFlagName s) := hs.long hlong
      unfold longFlagName at hname
      generalize List.span (fun x => decide (x ≠ '=')) (List.drop 2 s.toList) = sp at h hname
      obtain ⟨n, tail⟩ := sp
      split at h
      · cases h
      split at h
      · cases h
      split at h
      · cases h
      rename_i f hf
      have hf' : ¬keep f.name := by rw [findFlag_name hf]; cases tail <;> exact hname
      split at h
      · cases h
      rename_i v after hgiven
      split at h
      · cases h
      rename_i setting hset
      have hafter : after <:+ rest := by
        cases tail with
        | cons _ _ =>
          simp only [Option.some.injEq, Prod.mk.injEq] at hgiven
          obtain ⟨-, rfl⟩ := hgiven
          exact List.suffix_refl _
        | nil =>
          simp only at hgiven
          split at hgiven
          · simp only [Option.some.injEq, Prod.mk.injEq] at hgiven
            obtain ⟨-, rfl⟩ := hgiven
            exact List.suffix_refl _
          split at hgiven
          · simp only [Option.some.injEq, Prod.mk.injEq] at hgiven
            obtain ⟨-, rfl⟩ := hgiven
            exact List.suffix_cons _ _
          · cases hgiven
      have hkeep := readFlags_get (fun s' hs' => hrest s' (hafter.subset hs')) h
      intro k hk
      rw [hkeep k hk, setFlag_get hset hf' k hk]
    · rename_i hflag hend hlong
      split at h
      · cases h
      rename_i setting after hshort
      have hdash : s.startsWith "-" = true := by
        simp only [Bool.or_eq_true, Bool.not_eq_true', decide_eq_true_eq, not_or] at hflag
        simpa using hflag.1.2
      obtain ⟨hkeep₁, hafter⟩ :=
        readShorthands_get (hs.short hdash (by simpa using hlong)) hshort
      have hkeep₂ := readFlags_get (fun s' hs' => hrest s' (hafter.subset hs')) h
      intro k hk
      rw [hkeep₂ k hk, hkeep₁ k hk]

end DashboardHarness.Cli
