/-!
# What can be wrong with a YAML text

Most errors say that the text is not YAML of version 1.1 or uses what a plain
data file has no meaning for. A few belong to the scalar whose type is written
out or can be seen: its text is no number, truth value or date after all. Others
come of a number or a nesting that is too large to be dealt with. Those are told
apart by `Error.isMalformed`.
-/

namespace Rollout.Yaml

/-- Why a YAML text has no value. -/
inductive Error where
  /-- A control character or another character that YAML does not allow. -/
  | forbiddenCharacter
  /-- A character that starts no token. -/
  | strayCharacter
  /-- A block entry, key or value where the line already holds something else. -/
  | misplacedIndicator
  /-- A key without the colon after it. -/
  | missingColon
  /-- A quoted scalar that the end of the text or a document mark cuts off. -/
  | unfinishedScalar
  | malformedEscape
  | malformedDirective
  | malformedTag
  | malformedAnchor
  /-- The line that starts a block scalar says something unknown. -/
  | malformedBlockHeader
  /-- A token that the grammar does not allow at its place. -/
  | unexpectedToken
  | undefinedAlias
  | repeatedAnchor
  | severalDocuments
  /-- A tag that names no type of plain data. -/
  | unknownTag
  /-- A node whose tag asks for another kind of node. -/
  | wrongKind
  /-- A list or a mapping as the key of a mapping. -/
  | collectionAsKey
  | malformedMerge
  | malformedBinary
  /-- An escape for a code point beyond Unicode. -/
  | codePointTooLarge
  | malformedInteger
  | malformedFloat
  /-- A number tag on an empty text. -/
  | emptyNumber
  | malformedBoolean
  | malformedTimestamp
  /-- A timestamp tag on a mapping. -/
  | mappingAsTimestamp
  /-- A day or a time that does not exist. -/
  | impossibleDate
  /-- A number in base sixty with a point and so many parts that a place is beyond all floating
  point numbers. -/
  | placeTooLarge
  /-- An escape for a number that is not even near Unicode. -/
  | codePointUnbounded
  /-- A number of a version with too many digits. -/
  | versionTooLong
  /-- Collections inside one another beyond all measure, or a scalar that stands for itself. -/
  | tooDeep
  deriving DecidableEq, Repr

/-- Whether the text is not YAML, as against a scalar that is not what its type wants and a text
that is too much. -/
def Error.isMalformed : Error → Bool
  | .codePointTooLarge => false
  | .malformedInteger => false
  | .malformedFloat => false
  | .emptyNumber => false
  | .malformedBoolean => false
  | .malformedTimestamp => false
  | .mappingAsTimestamp => false
  | .impossibleDate => false
  | .placeTooLarge => false
  | .codePointUnbounded => false
  | .versionTooLong => false
  | .tooDeep => false
  | _ => true

end Rollout.Yaml
