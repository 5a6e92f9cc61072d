import RecipeDiag.Diagnostic.Basic
import RecipeDiag.Language
import RecipeDiag.Table

/-! # Channels

Each language has a channel that holds the diagnostics shown for every recipe. What is shown for a
recipe altogether is `Channels.merged`: the shell channel's part, then the Python channel's. -/

namespace RecipeDiag

abbrev Channel := Table Uri (List Diagnostic)

/-- The diagnostics that a channel holds for a recipe, none if it has no entry. -/
def Channel.diagnostics (c : Channel) (recipe : Uri) : List Diagnostic := (c.get? recipe).getD []

structure Channels where
  bash : Channel
  python : Channel

namespace Channels

def empty : Channels := ⟨.empty, .empty⟩

instance : Inhabited Channels := ⟨empty⟩

def channel (c : Channels) : Language → Channel
  | .bash => c.bash
  | .python => c.python

/-- Replaces the channel of a language. -/
def withChannel (c : Channels) (l : Language) (ch : Channel) : Channels :=
  match l with
  | .bash => { c with bash := ch }
  | .python => { c with python := ch }

/-- Replaces the entry of a recipe in the channel of a language. -/
def set (c : Channels) (l : Language) (recipe : Uri) (ds : List Diagnostic) : Channels :=
  c.withChannel l ((c.channel l).insert recipe ds)

/-- Forgets the entry of a recipe in the channel of a language. -/
def erase (c : Channels) (l : Language) (recipe : Uri) : Channels :=
  c.withChannel l ((c.channel l).erase recipe)

/-- Forgets a recipe in both channels. -/
def remove (c : Channels) (recipe : Uri) : Channels :=
  ⟨c.bash.erase recipe, c.python.erase recipe⟩

/-- All diagnostics of a recipe. -/
def merged (c : Channels) (recipe : Uri) : List Diagnostic :=
  c.bash.diagnostics recipe ++ c.python.diagnostics recipe

/-- The recipes with an entry in either channel, each once, in ascending order. -/
def recipes (c : Channels) : List Uri :=
  Uri.sort (c.bash.keys ++ c.python.keys.filter fun u => !c.bash.keys.contains u)

/-! ### Entries after each operation -/

variable {c c' : Channels} {l l' : Language} {recipe recipe' : Uri} {ds : List Diagnostic}

@[simp] theorem get?_channel_empty : (empty.channel l).get? recipe = none := by
  cases l <;> rfl

theorem get?_channel_set : ((c.set l recipe ds).channel l').get? recipe' =
    if l' = l ∧ recipe' = recipe then some ds else (c.channel l').get? recipe' := by
  cases l <;> cases l' <;> simp [set, withChannel, channel, Table.get?_insert]

theorem get?_channel_remove : ((c.remove recipe).channel l).get? recipe' =
    if recipe' = recipe then none else (c.channel l).get? recipe' := by
  cases l <;> simp [remove, channel, Table.get?_erase]

/-- What is shown for a recipe depends on its two entries alone. -/
theorem merged_congr (h : ∀ l, (c.channel l).get? recipe = (c'.channel l).get? recipe) :
    c.merged recipe = c'.merged recipe := by
  have hb := h .bash
  have hp := h .python
  simp only [channel] at hb hp
  simp only [merged, Channel.diagnostics, hb, hp]

/-- Without an entry nothing is shown. -/
theorem merged_eq_nil (h : ∀ l, (c.channel l).get? recipe = none) : c.merged recipe = [] := by
  have hb := h .bash
  have hp := h .python
  simp only [channel] at hb hp
  simp [merged, Channel.diagnostics, hb, hp]

end Channels
end RecipeDiag
