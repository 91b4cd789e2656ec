import WorkspaceSearch.Time.Pattern

/-!
# Reading instants

Three readers of instants.

* `Instant.ofQuery?` reads the date of a query: a full date and time with its offset, a date and time without one, or
  a date alone.  Without an offset the time is universal time, and a date alone is its midnight.
* `Instant.ofExchange?` reads a date of a document: a date, a time with seconds and an offset, loosely spaced.
* `Instant.ofStored?` reads a stored timestamp: a date and at least hours and minutes, in the forms that databases
  write.
-/

namespace WorkspaceSearch

namespace Time

/-- Four, two and two digits with dashes, a time with seconds, and an offset with a colon. -/
def fullPattern : List Piece :=
  [.fullYear, .mark '-', .full .month, .mark '-', .full .day, .timeMark, .full .hour, .mark ':', .full .minute,
    .mark ':', .full .second, .fraction, .offset .strict]

/-- Year, month and day with dashes. -/
def datePattern : List Piece := [.year, .mark '-', .short .month, .mark '-', .short .day]

/-- Hours and minutes with a colon. -/
def minutePattern : List Piece := [.short .hour, .mark ':', .short .minute]

/-- Hours, minutes and seconds with colons. -/
def secondPattern : List Piece := minutePattern ++ [.mark ':', .short .second]

/-- A date and a time with seconds, without an offset. -/
def localPattern : List Piece := datePattern ++ [.mark 'T'] ++ secondPattern

/-- A date, a time with seconds and an offset, with blanks allowed in front of every mark. -/
def loosePattern : List Piece :=
  [.year, .blanks, .mark '-', .short .month, .blanks, .mark '-', .short .day, .timeMark, .short .hour, .blanks,
    .mark ':', .short .minute, .blanks, .mark ':', .short .second, .fraction, .blanks, .offset .loose, .blanks]

/-- The forms of a stored timestamp other than the full one, in the order in which they are tried: date and time are
separated by blanks or a T, the seconds may be missing, and the offset is missing, a Z or written in numbers. -/
def storedPatterns : List (List Piece) :=
  let seconds := secondPattern ++ [.fraction]
  let zone := [.offset .numbers]
  let utc := [.mark 'Z']
  let spaced := datePattern ++ [.blanks]
  let joined := datePattern ++ [.mark 'T']
  [ spaced ++ seconds, spaced ++ minutePattern, spaced ++ minutePattern ++ utc, spaced ++ minutePattern ++ zone,
    spaced ++ seconds ++ utc, spaced ++ seconds ++ zone, joined ++ minutePattern, joined ++ minutePattern ++ utc,
    joined ++ minutePattern ++ zone, joined ++ seconds, joined ++ seconds ++ utc, joined ++ seconds ++ zone ]

/-- The instant a text names by a pattern. -/
def readInstant (pattern : List Piece) (cs : List Char) : Option Instant :=
  (readFields pattern cs).bind Fields.instant?

/-- The instant a text names by a pattern, its offset disregarded. -/
def readLocalInstant (pattern : List Piece) (cs : List Char) : Option Instant :=
  (readFields pattern cs).bind fun f => { f with offset := none }.instant?

end Time

namespace Instant

open Time

/-- The instant a date of a query names. -/
def ofQuery? (text : String) : Option Instant :=
  let cs := text.toList
  readInstant fullPattern cs <|> readInstant localPattern cs <|> readInstant datePattern cs

/-- The instant a date of a document names. -/
def ofExchange? (text : String) : Option Instant := readInstant loosePattern text.toList

/-- The instant a stored timestamp names.  A form whose offset is too large is read again without it. -/
def ofStored? (text : String) : Option Instant :=
  let cs := text.toList
  readInstant fullPattern cs <|>
    storedPatterns.findSome? fun pattern => readInstant pattern cs <|> readLocalInstant pattern cs

end Instant

end WorkspaceSearch
