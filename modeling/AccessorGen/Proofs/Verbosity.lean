import AccessorGen.CommandLine.Arguments

/-! Asking for a log changes nothing else in what is asked for. Two readings of arguments are
followed side by side, of which the second meets one more request for a log. -/
namespace AccessorGen.CommandLine

section Follows

variable {ε α β γ δ : Type} {rel : α → β → Prop} {rel' : γ → δ → Prop}

/-- Whenever `y` succeeds `x` does, with a related answer. -/
def Follows (rel : α → β → Prop) (x : Except ε α) (y : Except ε β) : Prop :=
  ∀ b, y = .ok b → ∃ a, x = .ok a ∧ rel a b

theorem Follows.bind {x : Except ε α} {y : Except ε β} {f : α → Except ε γ} {g : β → Except ε δ}
    (h : Follows rel x y) (hnext : ∀ a b, rel a b → Follows rel' (f a) (g b)) :
    Follows rel' (x >>= f) (y >>= g) := by
  intro d hd
  cases y with
  | error e => cases hd
  | ok b =>
    obtain ⟨a, rfl, hab⟩ := h b rfl
    exact hnext a b hab d hd

theorem Follows.ok {a : α} {b : β} (h : rel a b) :
    Follows rel (.ok a : Except ε α) (.ok b) := by
  rintro _ ⟨⟩
  exact ⟨a, rfl, h⟩

theorem Follows.error {x : Except ε α} {e : ε} : Follows rel x (.error e : Except ε β) := by
  rintro b ⟨⟩

/-- What begins in the same way is followed if its ends are. -/
theorem Follows.bind_same {x : Except ε α} {f : α → Except ε γ} {g : α → Except ε δ}
    (hnext : ∀ a, Follows rel' (f a) (g a)) : Follows rel' (x >>= f) (x >>= g) := by
  cases x with
  | error e => exact .error
  | ok a => exact hnext a

end Follows

/-- The same flags have been met, but that in `loud` a log has been asked for. -/
structure Given.Quieter (g loud : Given) : Prop where
  json : g.json = loud.json
  manifest : g.manifest = loud.manifest
  source : g.source = loud.source
  type : g.type = loud.type
  verbose : loud.verbose = true

variable {g loud : Given} {known : List Flag} {quiet args : List String}

/-- A second request on one level is refused. -/
theorem follows_add (h : g.Quieter loud) (flag : Flag) (value : String) :
    Follows Given.Quieter (g.add flag value) (loud.add flag value) := by
  obtain ⟨hjson, hmanifest, hsource, htype, hverbose⟩ := h
  cases flag with
  | help => exact .error
  | version => exact .error
  | verbose =>
    simp only [Given.add, hverbose, if_true]
    exact .error
  | json =>
    simp only [Given.add, hjson]
    split
    · exact .error
    · exact .ok ⟨rfl, hmanifest, hsource, htype, hverbose⟩
  | manifest =>
    simp only [Given.add, hmanifest]
    split
    · exact .error
    · exact .ok ⟨hjson, rfl, hsource, htype, hverbose⟩
  | source =>
    simp only [Given.add, hsource]
    split
    · exact .ok ⟨hjson, hmanifest, rfl, htype, hverbose⟩
    · exact .error
  | type =>
    simp only [Given.add, htype]
    split
    · exact .error
    · exact .ok ⟨hjson, hmanifest, hsource, rfl, hverbose⟩

/-- The request has been met, and the readings go on from the same place. -/
abbrev QuieterWith {α : Type} (x y : Given × α) : Prop := x.1.Quieter y.1 ∧ x.2 = y.2

theorem follows_add_read (h : g.Quieter loud) (flag : Flag) (value : String) :
    Follows QuieterWith (do return (← g.add flag value, (none : Option Flag)))
      (do return (← loud.add flag value, none)) :=
  (follows_add h flag value).bind fun _ _ hadd => .ok ⟨hadd, rfl⟩

/-- What is read in the same way is read on from in the same way. -/
theorem Follows.bind_read {α β γ : Type} {rel : β → γ → Prop} {x y : Except Stop (Given × α)}
    {f : Given × α → Except Stop β} {f' : Given × α → Except Stop γ}
    (hread : Follows QuieterWith x y)
    (hnext : ∀ g loud a, g.Quieter loud → Follows rel (f (g, a)) (f' (loud, a))) :
    Follows rel (x >>= f) (y >>= f') := by
  refine hread.bind ?_
  rintro ⟨g, a⟩ ⟨loud, _⟩ ⟨hquieter, rfl⟩
  exact hnext g loud a hquieter

theorem follows_readShort (known : List Flag) (h : g.Quieter loud) (cs : List Char) :
    Follows QuieterWith (readShort known g cs) (readShort known loud cs) := by
  induction cs generalizing g loud with
  | nil => exact .ok ⟨h, rfl⟩
  | cons c rest ih =>
    rw [readShort, readShort]
    cases known.find? (·.short? = some c) with
    | none => exact .error
    | some flag =>
      dsimp only
      cases flag.takesValue with
      | true =>
        simp only [if_true]
        split
        · exact .ok ⟨h, rfl⟩
        · exact follows_add_read h flag _
        · exact follows_add_read h flag _
      | false => exact (follows_add h flag "").bind fun _ _ hadd => ih hadd

theorem follows_readLong (known : List Flag) (h : g.Quieter loud) (s : List Char) :
    Follows QuieterWith (readLong known g s) (readLong known loud s) := by
  unfold readLong
  obtain ⟨name, value⟩ := s.span (· ≠ '=')
  dsimp only
  cases known.find? (·.long = String.ofList name) with
  | none => exact .error
  | some flag =>
    cases value with
    | nil =>
      dsimp only
      cases flag.takesValue with
      | true => exact .ok ⟨h, rfl⟩
      | false => exact follows_add_read h flag ""
    | cons _ value =>
      dsimp only
      cases flag.takesValue with
      | true => exact follows_add_read h flag (String.ofList value)
      | false => exact .error

theorem follows_readFlags (known : List Flag) (h : g.Quieter loud) (waiting : Option Flag)
    (args : List String) :
    Follows QuieterWith (readFlags known g waiting args) (readFlags known loud waiting args) := by
  induction args generalizing g loud waiting with
  | nil =>
    cases waiting with
    | some flag => exact .error
    | none => exact .ok ⟨h, rfl⟩
  | cons arg rest ih =>
    unfold readFlags
    cases waiting with
    | some flag =>
      cases Word.of arg.toList with
      | plain => exact (follows_add h flag arg).bind fun _ _ hadd => ih hadd none
      | separator => exact .error
      | long name => exact .error
      | short first flags => exact .error
    | none =>
      cases Word.of arg.toList with
      | plain => exact .ok ⟨h, rfl⟩
      | separator =>
        cases rest with
        | nil => exact .ok ⟨h, rfl⟩
        | cons next rest => exact .error
      | long name =>
        exact (follows_readLong known h name).bind_read fun _ _ waiting hread => ih hread waiting
      | short first flags =>
        exact (follows_readShort known h _).bind_read fun _ _ waiting hread => ih hread waiting

/-- The second list is the first with one more request for a log in it. -/
inductive Louder : List String → List String → Prop where
  | short (args : List String) : Louder args ("-v" :: args)
  | long (args : List String) : Louder args ("--verbose" :: args)
  /-- Before other short flags. -/
  | joined (c : Char) (flags : List Char) (args : List String) :
    Louder (String.ofList ('-' :: c :: flags) :: args)
      (String.ofList ('-' :: 'v' :: c :: flags) :: args)
  | skip (arg : String) {quiet args : List String} (h : Louder quiet args) :
    Louder (arg :: quiet) (arg :: args)

theorem Louder.ne_nil (h : Louder quiet args) : args ≠ [] := by
  cases h <;> exact List.cons_ne_nil _ _

/-- A log is among the things that can be asked for. -/
structure KnowsVerbose (known : List Flag) : Prop where
  short : known.find? (·.short? = some 'v') = some .verbose
  long : known.find? (·.long = "verbose") = some .verbose

theorem follows_add_verbose (g : Given) :
    Follows (fun _ loud => g.Quieter loud) (.ok () : Except Stop Unit) (g.add .verbose "") := by
  simp only [Given.add]
  split
  · exact .error
  · exact .ok ⟨rfl, rfl, rfl, rfl, rfl⟩

theorem readShort_verbose (hknown : KnowsVerbose known) (g : Given) (cs : List Char) :
    readShort known g ('v' :: cs) =
      g.add .verbose "" >>= fun loud => readShort known loud cs := by
  rw [readShort, hknown.short]
  rfl

theorem readLong_verbose (hknown : KnowsVerbose known) (g : Given) :
    readLong known g "verbose".toList =
      g.add .verbose "" >>= fun loud => .ok (loud, none) := by
  have hspan : "verbose".toList.span (· ≠ '=') = ("verbose".toList, []) := by decide
  simp only [readLong, hspan, String.ofList_toList, hknown.long]
  rfl

/-- The request has been met, or nothing differs yet but the arguments that are left. -/
def QuieterThan (x y : Given × List String) : Prop :=
  QuieterWith x y ∨ (x.1 = y.1 ∧ Louder x.2 y.2)

theorem follows_readFlags_same (h : g.Quieter loud) (waiting : Option Flag) (args : List String) :
    Follows QuieterThan (readFlags known g waiting args) (readFlags known loud waiting args) := by
  intro y hy
  obtain ⟨x, hx, hquieter⟩ := follows_readFlags known h waiting args y hy
  exact ⟨x, hx, .inl hquieter⟩

namespace Word

theorem of_short {c : Char} (hc : c ≠ '-') (cs : List Char) :
    of ('-' :: c :: cs) = .short c cs := by
  cases cs <;> simp [of, hc]

theorem of_ne_plain (c : Char) (cs : List Char) : of ('-' :: c :: cs) ≠ .plain := by
  by_cases hc : c = '-'
  · subst hc
    cases cs <;> simp [of]
  · simp [of_short hc]

theorem of_eq_plain {cs : List Char} (h : cs.head? ≠ some '-') : of cs = .plain := by
  cases cs with
  | nil => rfl
  | cons c cs =>
    have hc : c ≠ '-' := by simpa using h
    simp [of, hc]

end Word

theorem readFlags_short {c : Char} (hc : c ≠ '-') (known : List Flag) (g : Given)
    (cs : List Char) (args : List String) :
    readFlags known g none (String.ofList ('-' :: c :: cs) :: args) =
      readShort known g (c :: cs) >>= fun read => readFlags known read.1 read.2 args := by
  rw [readFlags.eq_def]
  simp only [String.toList_ofList, Word.of_short hc]

/-- A flag that waits for its value does not take another flag for it. -/
theorem readFlags_waiting (known : List Flag) (g : Given) (flag : Flag) (c : Char) (cs : List Char)
    (args : List String) :
    readFlags known g (some flag) (String.ofList ('-' :: c :: cs) :: args) = .error .usage := by
  unfold readFlags
  rw [String.toList_ofList]
  cases hword : Word.of ('-' :: c :: cs) with
  | plain => exact absurd hword (Word.of_ne_plain c cs)
  | separator => rfl
  | long name => rfl
  | short first flags => rfl

/-- A dash is no flag. -/
theorem readShort_dash (known : List Flag) (g : Given) (cs : List Char) :
    readShort known g ('-' :: cs) = .error .usage := by
  have hfind : known.find? (·.short? = some '-') = none := by
    rw [List.find?_eq_none]
    intro flag _
    cases flag <;> decide
  rw [readShort, hfind]

/-- The request stands alone or before other short flags. -/
theorem follows_readFlags_short (hknown : KnowsVerbose known) (g : Given) {cs : List Char}
    (hrest : ∀ loud, g.Quieter loud → Follows QuieterThan (readFlags known g none quiet)
      (readShort known loud cs >>= fun read => readFlags known read.1 read.2 args)) :
    Follows QuieterThan (readFlags known g none quiet)
      (readFlags known g none (String.ofList ('-' :: 'v' :: cs) :: args)) := by
  rw [readFlags_short (by decide), readShort_verbose hknown, bind_assoc]
  exact (follows_add_verbose g).bind fun _ loud h => hrest loud h

theorem follows_readFlags_joined (hknown : KnowsVerbose known) (g : Given) (c : Char)
    (flags : List Char) (args : List String) :
    Follows QuieterThan (readFlags known g none (String.ofList ('-' :: c :: flags) :: args))
      (readFlags known g none (String.ofList ('-' :: 'v' :: c :: flags) :: args)) := by
  refine follows_readFlags_short hknown g fun loud h => ?_
  by_cases hc : c = '-'
  · rw [hc, readShort_dash]
    exact .error
  · rw [readFlags_short hc]
    exact (follows_readShort known h _).bind_read fun _ _ waiting hread =>
      follows_readFlags_same hread waiting args

theorem follows_readFlags_long (hknown : KnowsVerbose known) (g : Given) (args : List String) :
    Follows QuieterThan (readFlags known g none args)
      (readFlags known g none ("--verbose" :: args)) := by
  have hread : readFlags known g none ("--verbose" :: args) =
      readLong known g "verbose".toList >>= fun read => readFlags known read.1 read.2 args := by
    rfl
  rw [hread, readLong_verbose hknown, bind_assoc]
  exact (follows_add_verbose g).bind fun _ loud h => follows_readFlags_same h none args

theorem follows_readFlags_louder (hknown : KnowsVerbose known) (g : Given)
    (waiting : Option Flag) (hlouder : Louder quiet args) :
    Follows QuieterThan (readFlags known g waiting quiet) (readFlags known g waiting args) := by
  -- Where the request is met while a flag waits for its value, reading fails. So it is never taken
  -- for a value, and both readings go on with the same flag waiting.
  induction hlouder generalizing g waiting with
  | short args =>
    cases waiting with
    | some flag => exact .error
    | none =>
      exact follows_readFlags_short hknown g fun loud h => follows_readFlags_same h none args
  | long args =>
    cases waiting with
    | some flag => exact .error
    | none => exact follows_readFlags_long hknown g args
  | joined c flags args =>
    cases waiting with
    | some flag =>
      rw [readFlags_waiting known g flag 'v' (c :: flags)]
      exact .error
    | none => exact follows_readFlags_joined hknown g c flags args
  | @skip arg quiet args hlouder ih =>
    unfold readFlags
    cases waiting with
    | some flag =>
      cases Word.of arg.toList with
      | plain => exact .bind_same fun g => ih g none
      | separator => exact .error
      | long name => exact .error
      | short first flags => exact .error
    | none =>
      cases Word.of arg.toList with
      | plain => exact .ok (.inr ⟨rfl, .skip _ hlouder⟩)
      | separator =>
        have hargs : ¬args.isEmpty = true := by simpa using hlouder.ne_nil
        simp only [hargs]
        exact .error
      | long name => exact .bind_same fun (g, waiting) => ih g waiting
      | short first flags => exact .bind_same fun (g, waiting) => ih g waiting

theorem follows_readCommandFlags {flags : List Flag}
    (hknown : KnowsVerbose (flags ++ [.verbose, .help])) (hlouder : Louder quiet args) :
    Follows Given.Quieter (readCommandFlags flags quiet) (readCommandFlags flags args) := by
  refine (follows_readFlags_louder hknown {} none hlouder).bind ?_
  rintro ⟨g, rest⟩ ⟨loud, rest'⟩ (⟨hg, rfl⟩ | ⟨_, hrest⟩)
  · cases rest with
    | nil => exact .ok hg
    | cons arg rest => exact .error
  · obtain ⟨arg, rest, rfl⟩ := List.exists_cons_of_ne_nil hrest.ne_nil
    exact .error

/-- The same command is asked for, and in `loud` its log too. -/
structure Request.Quieter (r loud : Request) : Prop where
  command : r.command = loud.command
  verbose : loud.verbose = true

/-- Only flags that have a part in the command are asked for it. -/
theorem follows_readCommand (name : String) (hlouder : Louder quiet args) :
    Follows Request.Quieter (readCommand name quiet) (readCommand name args) := by
  unfold readCommand
  cases CommandName.read? name with
  | none => exact .error
  | some command =>
    cases command with
    | check =>
      refine (follows_readCommandFlags ⟨rfl, rfl⟩ hlouder).bind fun g loud h => ?_
      rw [h.manifest]
      exact .ok ⟨rfl, h.verbose⟩
    | generate =>
      refine (follows_readCommandFlags ⟨rfl, rfl⟩ hlouder).bind fun g loud h => ?_
      rw [h.manifest, h.source, h.type, h.json]
      exact .ok ⟨rfl, h.verbose⟩
    | features =>
      refine (follows_readCommandFlags ⟨rfl, rfl⟩ hlouder).bind fun g loud h => ?_
      rw [h.manifest, h.source]
      exact .ok ⟨rfl, h.verbose⟩
    | help =>
      match args with
      | [] => exact .error
      | [_] => exact .error
      | _ :: _ :: _ => exact .error

/-- No command has a flag's name. -/
theorem readCommand_dash (cs : List Char) (args : List String) :
    readCommand (String.ofList ('-' :: cs)) args = .error .usage := by
  have hdash (name : CommandName) : name.text.toList.head? ≠ some '-' := by
    cases name <;> decide
  have hread : CommandName.read? (String.ofList ('-' :: cs)) = none := by
    rw [CommandName.read?, List.find?_eq_none]
    intro name _ hname
    refine hdash name ?_
    rw [of_decide_eq_true hname, String.toList_ofList, List.head?_cons]
  unfold readCommand
  rw [hread]
  rfl

/-- The request may stand before the name of the command or after it. -/
theorem follows_parseRequest (hlouder : Louder quiet args) :
    Follows Request.Quieter (parseRequest quiet) (parseRequest args) := by
  have hknown : KnowsVerbose [.verbose, .help, .version] := ⟨rfl, rfl⟩
  refine (follows_readFlags_louder hknown {} none hlouder).bind ?_
  rintro ⟨g, rest⟩ ⟨loud, rest'⟩ (⟨hg, rfl⟩ | ⟨rfl, hrest⟩)
  · cases rest with
    | nil => exact .error
    | cons name args =>
      have hloud : loud.verbose = true := hg.verbose
      exact .bind_same fun r => .ok ⟨rfl, by simp [hloud]⟩
  · cases hrest with
    | short args => exact .error
    | long args => exact .error
    | joined c flags args =>
      have hloud := readCommand_dash ('v' :: c :: flags) args
      dsimp only
      rw [hloud]
      exact .error
    | skip name hrest =>
      exact (follows_readCommand name hrest).bind fun r loud h =>
        .ok ⟨h.command, by simp [h.verbose]⟩

/-- What does not look like a flag ends the flags. -/
theorem readFlags_name {name : String} (h : name.toList.head? ≠ some '-') (known : List Flag)
    (g : Given) (rest : List String) :
    readFlags known g none (name :: rest) = .ok (g, name :: rest) := by
  unfold readFlags
  rw [Word.of_eq_plain h]
  rfl

/-- What stands before the name of a command has no part in which command it is. -/
theorem parse_of_readFlags {name : String} {rest : List String}
    (h : readFlags [.verbose, .help, .version] {} none args = .ok (g, name :: rest)) :
    parse args = (readCommand name rest).map Request.command := by
  rw [parse, parseRequest, h]
  change Except.map Request.command
    (readCommand name rest >>= fun r => .ok { r with verbose := g.verbose || r.verbose }) = _
  cases readCommand name rest with
  | error why => rfl
  | ok r => rfl

/-- In front of the name of a command the request is never refused. -/
theorem parse_verbose {name : String} (h : name.toList.head? ≠ some '-') (rest : List String) :
    parse ("-v" :: name :: rest) = parse (name :: rest) := by
  have hloud : readFlags [.verbose, .help, .version] {} none ("-v" :: name :: rest) =
      readFlags [.verbose, .help, .version] { verbose := true } none (name :: rest) := rfl
  rw [readFlags_name h] at hloud
  rw [parse_of_readFlags hloud, parse_of_readFlags (readFlags_name h _ _ _)]

end AccessorGen.CommandLine
