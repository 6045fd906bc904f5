import CachePolicy.Value.Routine.Basic

/-!
# Routines of times

The routines of dates, times, durations and zones.
-/

namespace CachePolicy.Routine

def ofDate : List Routine :=
  operators ["add", "eq", "ge", "getattribute", "gt", "hash", "le", "lt", "ne", "radd", "repr",
      "rsub", "str", "sub"] ++
  [creator] ++
  readers ["day", "month", "year"] ++
  [method "__format__" "" "Formats self with strftime.",
   method "__reduce__" "" "__reduce__() -> (cls, state)",
   method "ctime" "" "Return ctime() style string.",
   ofClass "fromisocalendar" ""
     (words ["int, int, int -> Construct a date from the ISO year, week number and ",
             "weekday.\n\nThis is the inverse of the date.isocalendar() function"]),
   ofClass "fromisoformat" "" "str -> Construct a date from a string in ISO 8601 format.",
   ofClass "fromordinal" "" "int -> date corresponding to a proleptic Gregorian ordinal.",
   ofClass "fromtimestamp" "($type, timestamp, /)"
     (words ["Create a date from a POSIX timestamp.\n\nThe timestamp is a number, e.g. ",
             "created via time.time(), that is interpreted\nas local time."]),
   method "isocalendar" ""
     "Return a named tuple containing ISO year, week number, and weekday.",
   method "isoformat" "" "Return string in ISO 8601 format, YYYY-MM-DD.",
   method "isoweekday" ""
     "Return the day of the week represented by the date.\nMonday == 1 ... Sunday == 7",
   method "replace" "" "Return date with new specified fields.",
   method "strftime" "" "format -> strftime() style string.",
   method "timetuple" "" "Return time tuple, compatible with time.localtime().",
   ofClass "today" ""
     "Current date or datetime:  same as self.__class__.fromtimestamp(time.time()).",
   method "toordinal" "" "Return proleptic Gregorian ordinal.  January 1 of year 1 is day 1.",
   method "weekday" ""
     "Return the day of the week represented by the date.\nMonday == 0 ... Sunday == 6"]

def ofDateTime : List Routine :=
  operators ["add", "eq", "ge", "getattribute", "gt", "hash", "le", "lt", "ne", "radd", "repr",
      "rsub", "str", "sub"] ++
  [creator] ++
  readers ["fold", "hour", "microsecond", "minute", "second", "tzinfo"] ++
  [method "__reduce__" "" "__reduce__() -> (cls, state)",
   method "__reduce_ex__" "" "__reduce_ex__(proto) -> (cls, state)",
   method "astimezone" "" "tz -> convert to local time in new timezone tz\n",
   ofClass "combine" "" "date, time -> datetime with same date and time fields",
   method "ctime" "" "Return ctime() style string.",
   method "date" "" "Return date object with same year, month and day.",
   method "dst" "" "Return self.tzinfo.dst(self).",
   ofClass "fromisoformat" "" "string -> datetime from a string in most ISO 8601 formats",
   ofClass "fromtimestamp" "" "timestamp[, tz] -> tz's local time from POSIX timestamp.",
   lengthy .method "isoformat" "",
   ofClass "now" "($type, /, tz=None)"
     (words ["Returns new datetime object representing current time local to tz.\n\n  tz\n    ",
             "Timezone object.\n\nIf no tz is specified, uses local timezone."]),
   method "replace" "" "Return datetime with new specified fields.",
   ofClass "strptime" ""
     "string, format -> new datetime parsed from a string (like time.strptime()).",
   method "time" "" "Return time object with same time but with tzinfo=None.",
   method "timestamp" "" "Return POSIX timestamp as float.",
   method "timetuple" "" "Return time tuple, compatible with time.localtime().",
   method "timetz" "" "Return time object with same time and tzinfo.",
   method "tzname" "" "Return self.tzinfo.tzname(self).",
   ofClass "utcfromtimestamp" "" "Construct a naive UTC datetime from a POSIX timestamp.",
   ofClass "utcnow" "" "Return a new datetime representing UTC day and time.",
   method "utcoffset" "" "Return self.tzinfo.utcoffset(self).",
   method "utctimetuple" "" "Return UTC time tuple, compatible with time.localtime()."]

def ofTime : List Routine :=
  operators ["eq", "ge", "getattribute", "gt", "hash", "le", "lt", "ne", "repr", "str"] ++
  [creator] ++
  readers ["fold", "hour", "microsecond", "minute", "second", "tzinfo"] ++
  [method "__format__" "" "Formats self with strftime.",
   method "__reduce__" "" "__reduce__() -> (cls, state)",
   method "__reduce_ex__" "" "__reduce_ex__(proto) -> (cls, state)",
   method "dst" "" "Return self.tzinfo.dst(self).",
   ofClass "fromisoformat" "" "string -> time from a string in ISO 8601 format",
   lengthy .method "isoformat" "",
   method "replace" "" "Return time with new specified fields.",
   method "strftime" "" "format -> strftime() style string.",
   method "tzname" "" "Return self.tzinfo.tzname(self).",
   method "utcoffset" "" "Return self.tzinfo.utcoffset(self)."]

def ofDuration : List Routine :=
  operators ["abs", "add", "bool", "divmod", "eq", "floordiv", "ge", "getattribute", "gt", "hash",
      "le", "lt", "mod", "mul", "ne", "neg", "pos", "radd", "rdivmod", "repr", "rfloordiv",
      "rmod", "rmul", "rsub", "rtruediv", "str", "sub", "truediv"] ++
  [creator] ++
  [method "__reduce__" "" "__reduce__() -> (cls, state)",
   member "days" "Number of days.",
   member "microseconds" "Number of microseconds (>= 0 and less than 1 second).",
   member "seconds" "Number of seconds (>= 0 and less than 1 day).",
   method "total_seconds" "" "Total seconds in the duration."]

def ofAnyZone : List Routine :=
  operators ["getattribute"] ++
  [creator] ++
  [method "__reduce__" "" "-> (cls, state)",
   method "dst" "" "datetime -> DST offset as timedelta positive east of UTC.",
   method "fromutc" "" "datetime in UTC -> datetime in local time.",
   method "tzname" "" "datetime -> string name of time zone.",
   method "utcoffset" ""
     "datetime -> timedelta showing offset from UTC, negative values indicating West of UTC"]

def ofZone : List Routine :=
  operators ["eq", "ge", "gt", "hash", "le", "lt", "ne", "repr", "str"] ++
  [creator] ++
  [method "__getinitargs__" "" "pickle support",
   method "dst" "" "Return None.",
   method "fromutc" "" "datetime in UTC -> datetime in local time.",
   method "tzname" ""
     (words ["If name is specified when timezone is created, returns the name.  Otherwise ",
             "returns offset as 'UTC(+|-)HH:MM'."]),
   method "utcoffset" "" "Return fixed offset."]

end CachePolicy.Routine
