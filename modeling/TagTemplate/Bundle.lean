import TagTemplate.Failure

/-! Bundles of compiled templates, and the script that holds them. -/

namespace TagTemplate

inductive ModuleFormat where
  | plain
  | amd (runtime : String)
deriving DecidableEq, Repr

structure Bundle where
  entries : List (String × String)
  names_nodup : (entries.map (·.1)).Nodup

namespace Bundle

def empty : Bundle := ⟨[], by simp⟩

def names (bundle : Bundle) : List String := bundle.entries.map (·.1)

def insert (bundle : Bundle) (name body : String) : Except Failure Bundle :=
  if taken : name ∈ bundle.names then .error (.duplicateTemplate name)
  else
    .ok ⟨bundle.entries ++ [(name, body)], by
      rw [List.map_append, List.nodup_append]
      refine ⟨bundle.names_nodup, by simp, ?_⟩
      intro a member b single
      simp only [List.map_cons, List.map_nil, List.mem_singleton] at single
      rintro rfl
      exact taken (single ▸ member)⟩

def insertAll (bundle : Bundle) : List (String × String) → Except Failure Bundle
  | [] => .ok bundle
  | (name, body) :: rest =>
      match bundle.insert name body with
      | .error failure => .error failure
      | .ok extended => extended.insertAll rest

def escapeChar (c : Char) : List Char :=
  if c = '\\' then ['\\', '\\']
  else if c = '\'' then ['\\', '\'']
  else if c = '\n' then ['\\', 'n']
  else if c = '\r' then ['\\', 'r']
  else if c = '\u2028' then "\\u2028".toList
  else if c = '\u2029' then "\\u2029".toList
  else [c]

def escape (text : List Char) : List Char := text.flatMap escapeChar

def literal (text : String) : List Char := '\'' :: escape text.toList ++ ['\'']

def preamble : List Char :=
  ("  var template = Handlebars.template, templates = Handlebars.templates = " ++
    "Handlebars.templates || \x7b\x7d;\n").toList

def header : ModuleFormat → List Char
  | .plain => "(function () \x7b\n".toList
  | .amd runtime =>
      "define([".toList ++ literal runtime ++ "], function (Handlebars) \x7b\n".toList

def footer : ModuleFormat → List Char
  | .plain => "\x7d)();\n".toList
  | .amd _ => "  return templates;\n\x7d);\n".toList

def entryLine (entry : String × String) : List Char :=
  "  templates[".toList ++ literal entry.1 ++ "] = template(".toList ++ entry.2.toList ++
    ");\n".toList

def script (format : ModuleFormat) (entries : List (String × String)) : String :=
  String.ofList (header format ++ preamble ++ entries.flatMap entryLine ++ footer format)

def render (bundle : Bundle) (format : ModuleFormat) : String := script format bundle.entries

structure Draft where
  entries : List (String × String)
  taken : List String
deriving DecidableEq, Repr

namespace Draft

def empty : Draft := ⟨[], []⟩

def names (draft : Draft) : List String := draft.entries.map (·.1)

def size (draft : Draft) : Nat := draft.entries.length

def render (draft : Draft) (format : ModuleFormat) : String := script format draft.entries

def insert (draft : Draft) (name body : String) : Except Failure Unit × Draft :=
  let marked := { draft with taken := draft.taken.insert name }
  if name ∈ draft.taken then (.error (.duplicateTemplate name), marked)
  else (.ok (), { marked with entries := marked.entries ++ [(name, body)] })

def insertEach (draft : Draft) (calls : List (String × String)) : Draft :=
  calls.foldl (fun draft call => (draft.insert call.1 call.2).2) draft

end Draft

end Bundle

end TagTemplate
