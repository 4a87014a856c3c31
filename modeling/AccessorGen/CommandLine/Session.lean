import AccessorGen.CommandLine.Log

/-! Runs that print and log, and that may fail after they have printed something. -/

namespace AccessorGen.CommandLine

/-- What a run has printed and logged by its end, and how it ends. A failure takes nothing back. -/
structure Session (φ α : Type) where
  stdout : String
  log : List Event
  result : Except φ α

namespace Session

variable {φ α β : Type}

def bind (s : Session φ α) (next : α → Session φ β) : Session φ β :=
  match s.result with
  | .ok a => ⟨s.stdout ++ (next a).stdout, s.log ++ (next a).log, (next a).result⟩
  | .error e => ⟨s.stdout, s.log, .error e⟩

instance : Monad (Session φ) where
  pure a := ⟨"", [], .ok a⟩
  bind := bind

/-- What can fail prints and logs nothing by itself. -/
instance : MonadLift (Except φ) (Session φ) := ⟨fun result => ⟨"", [], result⟩⟩

def print (text : String) : Session φ Unit := ⟨text, [], .ok ()⟩

def printLine (text : String) : Session φ Unit := print (text ++ "\n")

def note (events : List Event) : Session φ Unit := ⟨"", events, .ok ()⟩

def fail (e : φ) : Session φ α := ⟨"", [], .error e⟩

/-- The same run without its log. -/
def muted (s : Session φ α) : Session φ α := { s with log := [] }

instance : LawfulMonad (Session φ) := by
  refine LawfulMonad.mk' (Session φ) (fun s => ?_) (fun a next => ?_) (fun s next last => ?_)
  · obtain ⟨text, log, result⟩ := s
    cases result with
    | ok a =>
      change Session.mk (text ++ "") (log ++ []) (.ok a) = _
      rw [String.append_empty, List.append_nil]
    | error e => rfl
  · exact congrArg (Session.mk · _ _) String.empty_append
  · obtain ⟨text, log, result⟩ := s
    cases result with
    | error e => rfl
    | ok a =>
      change bind ⟨text ++ (next a).stdout, log ++ (next a).log, (next a).result⟩ last =
        ⟨text ++ (bind (next a) last).stdout, log ++ (bind (next a) last).log,
          (bind (next a) last).result⟩
      unfold bind
      cases (next a).result with
      | error e => rfl
      | ok b => simp only [String.append_assoc, List.append_assoc]

@[simp] theorem fail_bind (e : φ) (next : α → Session φ β) :
    ((fail e : Session φ α) >>= next) = fail e := rfl

@[simp] theorem lift_ok (a : α) : (liftM (Except.ok a : Except φ α) : Session φ α) = pure a := rfl

@[simp] theorem lift_error (e : φ) :
    (liftM (Except.error e : Except φ α) : Session φ α) = fail e := rfl

/-- What is printed in turn is printed as one text. -/
@[simp] theorem print_bind_print (s u : String) :
    ((print s : Session φ Unit) >>= fun _ => print u) = print (s ++ u) := rfl

@[simp] theorem printLine_bind_print (s u : String) :
    ((printLine s : Session φ Unit) >>= fun _ => print u) = print (s ++ "\n" ++ u) := rfl

@[simp] theorem result_muted (s : Session φ α) : s.muted.result = s.result := rfl

/-- The log has no part in how a run goes on. -/
@[simp] theorem muted_bind (s : Session φ α) (next : α → Session φ β) :
    (s >>= next).muted = s.muted >>= fun a => (next a).muted := by
  obtain ⟨text, log, result⟩ := s
  cases result <;> rfl

@[simp] theorem muted_pure (a : α) : (pure a : Session φ α).muted = pure a := rfl

@[simp] theorem muted_print (text : String) :
    (print text : Session φ Unit).muted = print text := rfl

@[simp] theorem muted_note (events : List Event) :
    (note events : Session φ Unit).muted = pure () := rfl

@[simp] theorem muted_fail (e : φ) : (fail e : Session φ α).muted = fail e := rfl

@[simp] theorem forM_cons (a : α) (l : List α) (f : α → Session φ Unit) :
    (a :: l).forM f = f a >>= fun _ => l.forM f := rfl

theorem forM_print (l : List α) (text : α → String) :
    (l.forM fun a => print (text a) : Session φ Unit) = print (String.join (l.map text)) := by
  induction l with
  | nil => rfl
  | cons a l ih =>
    rw [forM_cons, ih, print_bind_print, List.map_cons, String.join_cons]

end Session

end AccessorGen.CommandLine
