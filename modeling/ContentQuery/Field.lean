/-
This file holds the content attributes that a query can filter on, with the name each has
in rendered output and the spellings a query may use for it. The order of the fields, and
of the spellings of one field, is the order in which a query's text is tried against them,
so a spelling that begins with another one comes before it.
-/

namespace ContentQuery

/-- A content attribute that an atom filters on. -/
inductive Field where
  /-- Any page above the content in the page tree, by its numeric id. -/
  | ancestor
  /-- The user who created the content. -/
  | creator
  /-- A label attached to the content. -/
  | label
  /-- The page directly above the content, by its numeric id. -/
  | parent
  /-- The key of the space that holds the content. -/
  | space
  /-- The title of the content. -/
  | title
  /-- The kind of content. -/
  | type
deriving DecidableEq

namespace Field

/-- Every field, in the order in which spellings are tried. -/
def all : List Field := [ancestor, creator, label, parent, space, title, type]

theorem mem_all (field : Field) : field ∈ all := by
  cases field <;> decide

/-- The name of a field in rendered output. -/
def name : Field → String
  | ancestor => "ancestor"
  | creator => "creator"
  | label => "label"
  | parent => "parent"
  | space => "space"
  | title => "title"
  | type => "type"

/-- The field of the given name. -/
def ofName? (name : String) : Option Field :=
  all.find? (·.name == name)

theorem ofName?_name (field : Field) : ofName? field.name = some field := by
  cases field <;> decide

/-- The spellings of a field in a query, in the order in which they are tried. -/
def spellings : Field → List String
  | space => ["space.key", "space"]
  | field => [field.name]

end Field

end ContentQuery
