import Highlighter.Registry

/-!
# Changing a registry in place

A registry that is kept somewhere is changed step by step. A change that fails ends at the step that
fails, and what was done before this step stays. This module tells the steps of each change. That
they lead to the registry of the corresponding function, and a failure to no change at all, is
stated right below (`Registry.change_eq`).
-/

namespace Highlighter.Registry

/-! ## Steps -/

/-- Steps that change a registry in place, until one of them fails. -/
abbrev Update := ExceptT Error (StateM Registry)

namespace Update

/-- Assigns each file type of a grammar to it, and then stores the grammar under its key. -/
def addGrammar (g : Grammar) : Update String := do
  g.fileTypes.forM fun t ↦ modify fun r ↦
    { r with extensions := r.extensions.insert (normalExtension t) g.scopeName }
  modify fun r ↦ { r with grammars := r.grammars.insert g.scopeName g }
  return g.scopeName

/-- Stores a theme under a key. -/
def insertTheme (key : String) (t : Theme) : Update String := do
  modify fun r ↦ { r with themes := r.themes.insert key t }
  return key

/-- Reads a file, then the grammar in it, and adds the grammar. -/
def loadGrammar (contents : Except FileError ByteArray) : Update String := do
  let text ← decodeFile contents
  match Grammar.ofJson? text with
  | some g => addGrammar g
  | none => throw .document

/-- Reads a file, then the theme in it, and stores the theme. -/
def loadTheme (path : String) (contents : Except FileError ByteArray) : Update String := do
  let text ← decodeFile contents
  match Theme.ofJson? text with
  | some t => insertTheme (t.name.getD ((Path.stem? path).getD "unnamed")) t
  | none => throw .document

end Update

/-- What a registry is asked to do. -/
inductive Change where
  | addGrammar (g : Grammar)
  | addTheme (t : Theme)
  /-- Adds the grammar of a file, which holds some contents or cannot be read. -/
  | loadGrammar (contents : Except FileError ByteArray)
  /-- Adds the theme of a file. -/
  | loadTheme (path : String) (contents : Except FileError ByteArray)

/-- The steps of a change. The key of what was added is given back. -/
def Change.update : Change → Update String
  | addGrammar g => .addGrammar g
  | addTheme t => .insertTheme (themeKey t) t
  | loadGrammar contents => .loadGrammar contents
  | loadTheme path contents => .loadTheme path contents

/-- The answer to a change, and the registry after it. -/
def change (r : Registry) (c : Change) : Except Error String × Registry := c.update.run r

/-- The registry after some changes. -/
def changeAll (r : Registry) (cs : List Change) : Registry := cs.foldl (fun r c ↦ (r.change c).2) r

/-! ## What the steps lead to -/

/-- What is kept of a result: the new registry, or the old one if there is none. -/
def settle (r : Registry) : Except Error (Registry × String) → Except Error String × Registry
  | .ok (r', key) => (.ok key, r')
  | .error e => (.error e, r)

theorem Update.run_bind {α β : Type} (x : Update α) (f : α → Update β) (r : Registry) :
    (x >>= f).run r = match x.run r with
      | (.ok a, r') => (f a).run r'
      | (.error e, r') => (.error e, r') := by
  change (ExceptT.bindCont f (x r).1) (x r).2 = match x r with
      | (.ok a, r') => f a r'
      | (.error e, r') => (.error e, r')
  rcases x r with ⟨_ | _, _⟩ <;> rfl

theorem Update.run_forM_modify {α : Type} (f : α → Registry → Registry) (as : List α)
    (r : Registry) :
    (as.forM fun a ↦ (modify (f a) : Update Unit)).run r =
      (.ok (), as.foldl (fun r a ↦ f a r) r) := by
  induction as generalizing r with
  | nil => rfl
  | cons a as ih => exact ih (f a r)

theorem Update.run_addGrammar (r : Registry) (g : Grammar) :
    (Update.addGrammar g).run r = (.ok g.scopeName, r.addGrammar g) := by
  have hassign : ∀ (ts : List String) (r : Registry),
      ts.foldl (fun r t ↦
        { r with extensions := r.extensions.insert (normalExtension t) g.scopeName }) r =
      { r with extensions :=
          ts.foldl (fun m t ↦ m.insert (normalExtension t) g.scopeName) r.extensions } := by
    intro ts
    induction ts with
    | nil => exact fun _ ↦ rfl
    | cons t ts ih => exact fun r ↦ ih _
  rw [Update.addGrammar, Update.run_bind, Update.run_forM_modify]
  dsimp only
  rw [hassign]
  rfl

/-- A file that holds a text is decoded without a failure. -/
theorem Update.run_ok_bind {α β : Type} (a : α) (f : α → Update β) (r : Registry) :
    ((liftM (Except.ok a : Except Error α) : Update α) >>= f).run r = (f a).run r := rfl

/-- **The steps of a change** lead to the registry of the corresponding function, and to no change
if they fail. -/
theorem change_eq (r : Registry) (c : Change) :
    r.change c = match c with
      | .addGrammar g => (.ok g.scopeName, r.addGrammar g)
      | .addTheme t => (.ok (themeKey t), r.addTheme t)
      | .loadGrammar contents => r.settle (r.loadGrammar contents)
      | .loadTheme path contents => r.settle (r.loadTheme path contents) := by
  cases c with
  | addGrammar g => exact Update.run_addGrammar r g
  | addTheme t => rfl
  | loadGrammar contents =>
    change (Update.loadGrammar contents).run r = r.settle (r.loadGrammar contents)
    unfold Update.loadGrammar Registry.loadGrammar
    cases decodeFile contents with
    | error e => rfl
    | ok text =>
      rw [Update.run_ok_bind]
      simp only [bind, Except.bind]
      cases Grammar.ofJson? text with
      | none => rfl
      | some g => exact Update.run_addGrammar r g
  | loadTheme path contents =>
    change (Update.loadTheme path contents).run r = r.settle (r.loadTheme path contents)
    unfold Update.loadTheme Registry.loadTheme
    cases decodeFile contents with
    | error e => rfl
    | ok text =>
      rw [Update.run_ok_bind]
      simp only [bind, Except.bind]
      cases Theme.ofJson? text <;> rfl

end Highlighter.Registry
