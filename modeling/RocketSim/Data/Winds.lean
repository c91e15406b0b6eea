/-!
# Data files: wind roses and wind profiles

Wind data: monthly wind roses of launch sites and radiosonde wind profiles. Each entry is a path relative to the repository root and the file's text.  The wind rose tables all share one layout, so each is given by its header facts and its percentages.
-/

namespace RocketSim
namespace Repository
namespace Windrose

/-- Text padded with blanks on the left to nine characters. -/
def rightField (s : String) : String := "".pushn ' ' (9 - s.length) ++ s

/-- Text padded with blanks on the right to nine characters. -/
def leftField (s : String) : String := s.pushn ' ' (9 - s.length)

/-- A heading in three digits. -/
def heading (d : Nat) : String := "".pushn '0' (3 - (toString d).length) ++ toString d

/-- The `k`-th sector of a table: the first spans 0° to 10°, the others 20° around 10° · k. -/
def sector (k : Nat) : String :=
  if k == 0 then "000-010" else heading (10 * (k - 1)) ++ "-" ++ heading (10 * (k + 1))

/-- The text of a wind rose table: its header comments (the station, the observations used,
missing and in total, the period, the months and when it was generated), a header row, then a
row per sector of the calm percentage (in the first row only) and the percentages of the six
speed bands, in fields of nine characters.  `bands` lists the band percentages row by row,
separated by blanks. -/
def text (station observations period months generated calm bands : String) : String :=
  let values := bands.splitOn " "
  let rows := (List.range 36).map fun k =>
    ",".intercalate (leftField (sector k) :: rightField (if k == 0 then calm else "") ::
      ((values.drop (6 * k)).take 6).map rightField)
  "\n".intercalate ([
    "# Windrose Data Table (Percent Frequency) for " ++ station,
    "# Observations Used/Missing/Total: " ++ observations,
    "# Period: " ++ period,
    "# Hour Limiter: All included",
    "# Month Limiter: " ++ months,
    "# Wind Speed Units: miles per hour",
    "# Generated " ++ generated ++ " UTC, contact: akrherz@iastate.edu",
    "# First value in table is CALM",
    "Direction,     Calm, 2.0  4.9, 5.0  6.9, 7.0  9.9,10.0 14.9,15.0 19.9,    20.0+"] ++ rows)

end Windrose

/-- The wind roses and wind profiles, by path. -/
def windsFiles : List (String × String) :=
  [
    ("MAPLEAF/Examples/Wind/RadioSondetestLocation_filtered.txt",
      "#CAM00071119 2000 01 01 00 2315   83 ncdc-gts ncdc-gts  535475 -1141083\n 1361   235    82\n 2850   290   144\n 5290   295   211\n 6810   285   288\n 8670   280   370\n 9830   280   334\n11270   280   329\n13140   285   340\n15750   280   304\n18020   285   293\n20140   300   340\n23340   305   376\n25860   300   401\n30090   310   473\n32280   300   525"),
    ("MAPLEAF/Examples/Wind/WindroseAprMedecineHat.txt",
      Windrose.text "MEDICINE HAT     (CYXH)" "11758/213/11971" "1 Apr 2007 - 1 May 2019" "(4,)" "30 Jan 2020 20:21" "2.94"
        "0.578 0.459 0.476 0.782 0.374 0.298 0.816 0.587 0.519 0.757 0.221 0.221 0.655 0.629 0.434 0.672 0.085 0.077 0.510 0.485 0.340 0.570 0.060 0.094 0.646 0.349 0.323 0.553 0.094 0.034 0.765 0.723 0.332 0.748 0.145 0.017 0.850 0.876 0.612 0.842 0.170 0.017 0.927 0.902 0.765 1.004 0.170 0.060 0.953 0.663 0.655 0.544 0.213 0.068 0.527 0.476 0.578 0.816 0.187 0.051 0.425 0.451 0.366 0.383 0.136 0.051 0.349 0.238 0.230 0.196 0.060 0.034 0.306 0.162 0.128 0.179 0.077 0.009 0.204 0.153 0.094 0.136 0.034 0.009 0.281 0.204 0.136 0.366 0.043 0.026 0.323 0.213 0.111 0.306 0.085 0.026 0.306 0.128 0.213 0.306 0.145 0.077 0.289 0.264 0.264 0.417 0.238 0.187 0.612 0.272 0.281 0.476 0.187 0.145 0.536 0.527 0.451 0.723 0.289 0.153 0.816 0.604 0.485 0.978 0.468 0.145 0.919 0.842 0.825 1.863 0.468 0.247 0.893 1.106 0.978 1.539 0.383 0.153 0.833 1.012 1.063 1.191 0.357 0.238 0.561 0.595 0.442 1.199 0.281 0.451 0.527 0.357 0.357 1.072 0.663 0.672 0.340 0.323 0.374 0.936 0.587 0.519 0.315 0.315 0.357 1.080 0.434 0.281 0.408 0.306 0.417 0.953 0.289 0.340 0.213 0.391 0.408 0.833 0.221 0.306 0.204 0.434 0.502 1.063 0.323 0.323 0.349 0.425 0.476 1.072 0.578 0.425 0.238 0.289 0.485 1.301 1.174 0.400 0.281 0.298 0.451 1.174 0.638 0.434 0.417 0.281 0.289 0.706 0.315 0.272 0.510 0.349 0.357 0.774 0.238 0.323"),
    ("MAPLEAF/Examples/Wind/WindroseAprSchuler.txt",
      Windrose.text "SCHULER AGDM     (CXSC)" "9221/3/9224" "1 Apr 2007 - 1 May 2019" "(4,)" "30 Jan 2020 20:49" "3.65"
        "0.336 0.434 0.358 0.521 0.282 0.119 0.336 0.369 0.249 0.499 0.119 0.249 0.380 0.369 0.249 0.531 0.152 0.184 0.358 0.282 0.217 0.553 0.174 0.065 0.358 0.239 0.293 0.521 0.141 0.108 0.325 0.293 0.271 0.531 0.163 0.119 0.434 0.282 0.401 0.564 0.347 0.065 0.488 0.260 0.260 0.705 0.260 0.087 0.542 0.314 0.336 0.727 0.260 0.108 0.640 0.434 0.716 0.998 0.596 0.184 0.564 0.531 0.564 1.399 0.466 0.271 0.651 0.358 0.521 0.976 0.325 0.249 0.477 0.401 0.499 0.933 0.325 0.076 0.380 0.228 0.293 0.651 0.358 0.228 0.390 0.336 0.293 0.531 0.325 0.314 0.488 0.347 0.325 0.423 0.249 0.108 0.445 0.401 0.271 0.488 0.184 0.065 0.553 0.304 0.390 0.499 0.087 0.054 0.412 0.358 0.390 0.358 0.130 0.098 0.553 0.423 0.390 0.228 0.108 0.043 0.260 0.260 0.488 0.401 0.108 0.108 0.325 0.369 0.445 0.911 0.174 0.141 0.228 0.336 0.369 1.345 0.477 0.141 0.271 0.358 0.445 1.941 1.019 0.249 0.217 0.249 0.629 2.180 1.117 0.705 0.260 0.336 0.835 2.147 1.063 0.781 0.260 0.260 0.531 1.746 0.792 0.488 0.184 0.358 0.455 1.258 0.575 0.271 0.141 0.325 0.553 1.280 0.477 0.239 0.174 0.390 0.499 1.182 0.401 0.228 0.239 0.271 0.499 1.128 0.499 0.553 0.260 0.282 0.618 1.084 0.672 0.640 0.369 0.358 0.499 1.128 0.683 0.521 0.228 0.271 0.304 0.846 0.466 0.466 0.369 0.260 0.445 0.759 0.369 0.401 0.390 0.325 0.304 0.705 0.282 0.249"),
    ("MAPLEAF/Examples/Wind/WindroseAprSuffield.txt",
      Windrose.text "SUFFIELD AIRPORT (CYSD)" "1161/0/1161" "10 Apr 2007 - 30 Apr 2014" "(4,)" "30 Jan 2020 20:43" "1.29"
        "0.431 0.172 0.172 0.431 0.517 0.431 0.431 0.172 0.258 0.603 0.431 0.172 0.000 0.431 0.172 0.258 0.258 0.258 0.086 0.172 0.517 0.603 0.775 0.000 0.603 0.172 0.172 0.603 0.431 0.086 0.172 0.172 0.172 0.517 0.517 0.000 0.431 0.431 0.603 0.345 0.345 0.258 0.258 0.258 0.086 0.172 0.172 0.086 0.345 0.345 0.172 0.172 0.345 0.000 0.517 0.258 0.345 0.603 0.172 0.000 0.258 0.345 0.603 1.292 0.517 0.172 0.345 0.258 0.431 1.292 0.258 0.258 0.345 0.258 0.603 1.292 0.258 0.258 0.086 0.258 0.345 0.517 0.000 0.000 0.345 0.775 0.086 0.258 0.172 0.172 0.345 0.172 0.172 0.775 0.000 0.172 0.258 0.345 0.689 0.603 0.258 0.000 0.086 0.086 0.258 0.345 0.258 0.603 0.086 0.517 0.345 0.086 0.172 0.603 0.431 0.345 0.172 0.345 0.431 0.517 0.258 0.431 0.345 0.431 0.172 0.431 0.431 0.517 0.603 0.689 0.517 0.086 0.258 0.345 0.345 0.517 0.689 0.172 0.775 0.775 0.603 0.775 0.258 0.345 0.431 0.603 0.861 0.861 0.689 0.345 0.603 0.431 0.603 1.120 0.517 0.603 0.689 0.603 0.775 1.464 0.517 0.861 1.206 1.034 0.689 1.637 0.431 0.431 0.775 0.689 0.517 1.206 0.258 0.431 0.431 0.345 0.517 1.206 0.258 0.517 0.603 0.517 0.517 1.550 0.258 0.603 0.345 0.258 0.345 0.517 0.172 0.861 0.603 0.258 0.603 1.292 0.603 1.206 0.345 0.517 0.603 1.120 0.861 0.689 0.086 0.345 0.431 1.034 0.603 0.689 0.345 0.431 0.345 1.809 1.034 0.775"),
    ("MAPLEAF/Examples/Wind/WindroseAugMedecineHat.txt",
      Windrose.text "MEDICINE HAT     (CYXH)" "10590/396/10986" "1 Aug 2007 - 1 Sep 2019" "(8,)" "30 Jan 2020 20:21" "4.92"
        "0.652 0.463 0.425 0.689 0.123 0.085 0.793 0.699 0.519 0.765 0.123 0.038 0.500 0.453 0.406 0.548 0.066 0.019 0.689 0.604 0.340 0.397 0.076 0.000 0.529 0.397 0.255 0.415 0.076 0.009 1.058 0.897 0.274 0.434 0.085 0.000 0.737 0.718 0.604 0.434 0.085 0.009 0.925 0.774 0.510 0.378 0.028 0.000 0.699 0.737 0.510 0.557 0.047 0.000 0.699 0.463 0.397 0.604 0.038 0.028 0.576 0.510 0.302 0.368 0.057 0.009 0.576 0.387 0.189 0.236 0.028 0.009 0.434 0.208 0.264 0.161 0.009 0.019 0.406 0.208 0.113 0.113 0.000 0.000 0.425 0.217 0.113 0.085 0.057 0.009 0.406 0.208 0.104 0.113 0.094 0.094 0.557 0.208 0.132 0.142 0.094 0.066 0.614 0.331 0.123 0.331 0.094 0.028 0.982 0.576 0.208 0.293 0.189 0.019 1.114 0.699 0.321 0.425 0.161 0.066 1.218 0.935 0.614 0.718 0.113 0.057 1.171 1.237 1.095 1.539 0.179 0.057 1.473 1.398 1.199 1.596 0.179 0.038 1.379 1.643 1.039 1.331 0.217 0.161 1.086 1.313 0.916 0.982 0.255 0.198 0.973 0.897 0.642 0.774 0.246 0.264 0.500 0.689 0.661 1.048 0.397 0.264 0.510 0.614 0.604 1.020 0.378 0.227 0.321 0.614 0.623 1.010 0.302 0.179 0.331 0.387 0.463 0.689 0.255 0.132 0.387 0.453 0.415 1.076 0.368 0.142 0.349 0.387 0.425 1.161 0.491 0.085 0.415 0.453 0.463 1.180 0.378 0.208 0.246 0.255 0.368 0.708 0.463 0.161 0.444 0.331 0.368 0.519 0.198 0.179 0.472 0.378 0.161 0.500 0.331 0.047"),
    ("MAPLEAF/Examples/Wind/WindroseAugSchuler.txt",
      Windrose.text "SCHULER AGDM     (CXSC)" "9494/1/9495" "1 Aug 2007 - 1 Sep 2019" "(8,)" "30 Jan 2020 20:49" "6.07"
        "0.506 0.421 0.316 0.727 0.137 0.042 0.527 0.485 0.358 0.569 0.221 0.042 0.685 0.379 0.337 0.527 0.095 0.000 0.506 0.348 0.400 0.548 0.053 0.011 0.748 0.516 0.284 0.337 0.042 0.000 0.790 0.463 0.358 0.432 0.042 0.000 0.695 0.400 0.263 0.274 0.032 0.000 0.885 0.506 0.316 0.379 0.042 0.000 0.969 0.632 0.463 0.421 0.063 0.011 0.937 0.737 0.527 0.611 0.084 0.021 0.864 0.632 0.801 0.790 0.169 0.000 0.843 0.653 0.548 0.790 0.095 0.021 0.811 0.432 0.485 0.358 0.084 0.000 0.758 0.411 0.263 0.421 0.169 0.021 0.685 0.305 0.295 0.442 0.084 0.032 0.695 0.411 0.200 0.284 0.137 0.032 0.632 0.432 0.305 0.263 0.042 0.000 0.674 0.516 0.316 0.169 0.053 0.011 0.758 0.411 0.390 0.211 0.032 0.000 0.769 0.506 0.274 0.232 0.021 0.000 0.453 0.421 0.463 0.327 0.042 0.000 0.516 0.369 0.442 0.400 0.053 0.021 0.421 0.495 0.506 1.074 0.158 0.042 0.463 0.485 0.674 1.727 0.516 0.190 0.421 0.453 0.569 2.054 0.748 0.284 0.411 0.548 0.937 2.233 0.463 0.221 0.379 0.579 1.169 1.949 0.337 0.147 0.316 0.579 1.053 1.580 0.485 0.190 0.358 0.621 1.022 1.274 0.369 0.147 0.305 0.579 0.611 1.306 0.411 0.147 0.242 0.527 0.695 1.422 0.369 0.137 0.263 0.516 0.674 1.043 0.516 0.147 0.348 0.411 0.516 1.032 0.400 0.053 0.358 0.600 0.432 0.843 0.442 0.074 0.400 0.305 0.379 0.495 0.284 0.137 0.474 0.358 0.200 0.569 0.169 0.032"),
    ("MAPLEAF/Examples/Wind/WindroseAugSuffield.txt",
      Windrose.text "SUFFIELD AIRPORT (CYSD)" "1092/0/1092" "1 Aug 2007 - 28 Aug 2014" "(8,)" "30 Jan 2020 20:43" "1.47"
        "0.183 0.275 0.183 0.641 0.092 0.092 0.366 0.092 0.183 0.366 0.458 0.092 0.183 0.458 0.183 0.824 0.275 0.092 0.549 0.458 0.183 0.733 0.092 0.000 0.366 0.275 0.366 0.000 0.000 0.000 0.275 0.183 0.733 0.183 0.092 0.000 0.275 0.275 0.183 1.007 0.092 0.000 0.366 0.092 0.366 0.458 0.000 0.000 0.275 0.549 0.366 0.641 0.275 0.000 0.641 0.458 0.549 0.183 0.000 0.000 0.916 0.824 0.458 0.733 0.183 0.000 0.641 0.824 0.275 0.458 0.000 0.000 0.641 0.366 0.641 0.733 0.092 0.000 1.007 0.824 0.458 0.000 0.092 0.000 0.458 0.366 0.458 0.183 0.000 0.000 0.916 1.007 0.366 0.275 0.092 0.000 0.549 0.366 0.275 0.275 0.275 0.000 0.549 0.366 0.458 0.366 0.183 0.000 0.275 0.549 0.549 0.275 0.275 0.092 0.366 0.733 0.824 0.549 0.092 0.275 0.641 0.641 0.641 1.282 0.092 0.092 0.458 1.007 1.099 2.747 0.733 0.000 0.366 0.549 0.916 1.557 0.092 0.000 0.824 0.733 0.916 1.557 0.092 0.733 0.824 0.549 1.007 0.733 0.275 0.641 0.000 0.733 0.916 1.465 0.641 0.458 0.549 0.641 1.007 2.198 0.733 0.366 0.000 0.458 0.458 1.099 0.916 0.458 0.092 0.733 0.641 1.190 0.733 0.275 0.549 0.458 0.916 0.824 0.366 0.000 0.183 0.641 0.458 1.374 0.824 0.092 0.458 0.275 0.366 1.007 0.641 0.275 0.275 0.366 0.366 1.282 0.733 0.458 0.275 0.183 0.183 0.916 0.366 0.458 0.549 0.183 0.275 0.733 0.733 0.092 0.458 0.549 0.641 0.549 0.183 0.092"),
    ("MAPLEAF/Examples/Wind/WindroseDecMedecineHat.txt",
      Windrose.text "MEDICINE HAT     (CYXH)" "13499/239/13738" "1 Jan 2007 - 1 Jan 2020" "(12,)" "30 Jan 2020 20:21" "4.48"
        "0.956 0.733 0.704 1.000 0.252 0.148 1.267 1.045 0.415 0.800 0.282 0.067 0.763 0.741 0.304 0.407 0.200 0.022 0.637 0.385 0.244 0.378 0.126 0.030 0.637 0.267 0.311 0.296 0.022 0.000 0.689 0.437 0.237 0.326 0.037 0.000 0.919 0.874 0.289 0.482 0.148 0.000 0.800 0.659 0.274 0.407 0.030 0.000 0.593 0.363 0.259 0.215 0.007 0.000 0.533 0.200 0.156 0.215 0.037 0.000 0.304 0.104 0.074 0.052 0.007 0.000 0.207 0.067 0.015 0.007 0.000 0.000 0.274 0.074 0.000 0.000 0.000 0.000 0.267 0.037 0.000 0.000 0.000 0.000 0.274 0.044 0.007 0.007 0.000 0.000 0.222 0.052 0.000 0.022 0.000 0.000 0.452 0.081 0.007 0.015 0.007 0.000 0.430 0.148 0.037 0.089 0.030 0.022 0.563 0.230 0.178 0.230 0.148 0.104 0.741 0.519 0.370 0.607 0.163 0.126 1.000 0.822 0.696 1.504 0.733 0.363 1.222 1.141 1.119 2.830 1.556 0.459 1.245 1.600 1.674 3.089 0.911 0.348 1.163 1.519 1.659 2.348 0.444 0.126 0.948 0.889 0.845 1.148 0.089 0.096 0.785 0.859 0.482 0.452 0.178 0.504 0.859 0.570 0.459 0.704 0.356 0.511 0.607 0.541 0.548 0.807 0.259 0.178 0.422 0.652 0.437 0.778 0.200 0.141 0.430 0.578 0.437 0.956 0.356 0.178 0.504 0.704 0.570 0.993 0.170 0.052 0.444 0.556 0.548 0.696 0.170 0.104 0.444 0.733 0.578 0.800 0.207 0.111 0.526 0.630 0.548 0.911 0.356 0.111 0.748 0.430 0.444 0.556 0.126 0.133 0.926 0.548 0.467 0.563 0.163 0.096"),
    ("MAPLEAF/Examples/Wind/WindroseDecSchuler.txt",
      Windrose.text "SCHULER AGDM     (CXSC)" "9490/2/9492" "1 Jan 2007 - 1 Jan 2020" "(12,)" "30 Jan 2020 20:49" "8.44"
        "0.379 0.221 0.221 0.327 0.126 0.116 0.348 0.148 0.263 0.253 0.074 0.042 0.474 0.211 0.211 0.285 0.137 0.042 0.379 0.295 0.337 0.211 0.084 0.032 0.379 0.274 0.116 0.221 0.116 0.021 0.411 0.211 0.116 0.232 0.063 0.000 0.369 0.190 0.179 0.253 0.032 0.000 0.506 0.242 0.200 0.337 0.032 0.000 0.717 0.411 0.137 0.453 0.105 0.032 0.706 0.295 0.369 0.432 0.105 0.063 0.906 0.358 0.348 0.316 0.063 0.011 0.674 0.263 0.137 0.158 0.042 0.000 0.453 0.169 0.074 0.063 0.000 0.000 0.527 0.095 0.011 0.011 0.011 0.000 0.464 0.137 0.063 0.032 0.021 0.011 0.580 0.137 0.053 0.032 0.000 0.000 0.548 0.105 0.095 0.074 0.021 0.000 0.590 0.105 0.169 0.158 0.000 0.000 0.558 0.211 0.211 0.169 0.021 0.011 0.558 0.253 0.200 0.316 0.011 0.021 0.464 0.158 0.190 0.643 0.116 0.053 0.411 0.095 0.306 0.969 0.537 0.137 0.337 0.274 0.169 1.370 1.401 0.727 0.274 0.316 0.443 2.403 2.719 1.581 0.358 0.443 0.516 3.488 3.161 1.433 0.464 0.485 0.674 4.436 2.371 0.695 0.369 0.432 0.811 4.110 1.117 0.263 0.295 0.432 0.717 2.782 0.527 0.116 0.306 0.285 0.537 2.171 0.527 0.105 0.358 0.306 0.464 1.781 0.316 0.158 0.379 0.179 0.390 1.401 0.674 0.379 0.379 0.253 0.316 1.117 0.548 0.253 0.464 0.348 0.327 0.632 0.253 0.169 0.242 0.285 0.400 0.443 0.179 0.137 0.327 0.253 0.253 0.601 0.158 0.063 0.390 0.221 0.295 0.464 0.179 0.148"),
    ("MAPLEAF/Examples/Wind/WindroseDecSuffield.txt",
      Windrose.text "SUFFIELD AIRPORT (CYSD)" "904/0/904" "3 Dec 2007 - 18 Dec 2014" "(12,)" "30 Jan 2020 20:43" "2.65"
        "0.111 0.000 0.111 0.774 0.221 0.221 0.221 0.111 0.221 0.664 0.442 0.442 0.000 0.000 0.332 0.774 1.106 0.332 0.664 0.332 0.221 0.111 0.221 0.000 0.221 0.332 0.553 0.332 0.221 0.111 0.000 0.442 0.442 0.332 0.332 0.000 0.000 0.332 0.221 0.111 0.111 0.000 0.111 0.553 0.332 0.221 0.000 0.000 0.553 0.332 0.332 0.664 0.000 0.000 0.885 0.553 0.111 0.111 0.000 0.000 0.442 1.106 0.774 1.217 0.111 0.000 0.553 1.106 1.549 0.996 0.000 0.000 0.553 0.996 0.332 0.221 0.000 0.000 0.332 0.221 0.000 0.111 0.000 0.000 0.000 0.221 0.332 0.111 0.111 0.000 0.221 0.221 0.221 0.000 0.000 0.000 0.000 0.221 0.221 0.221 0.000 0.000 0.332 1.106 0.221 0.553 0.000 0.111 0.332 0.332 0.664 0.332 0.332 0.553 0.221 0.885 0.664 0.553 0.221 0.111 0.996 0.664 0.332 2.323 0.553 0.111 0.885 0.664 0.553 1.881 0.553 0.664 0.885 0.221 0.774 1.881 0.664 0.442 0.885 0.332 0.442 0.664 0.221 0.000 1.549 1.438 0.442 0.774 0.111 0.111 1.106 0.885 0.442 0.885 0.332 0.111 1.217 1.549 1.327 0.553 0.553 0.442 0.885 1.327 0.553 0.332 0.442 0.000 0.885 0.885 0.221 0.774 0.442 0.000 0.553 0.885 1.106 0.885 0.111 0.111 0.996 0.774 1.327 0.664 0.553 0.000 0.332 0.664 0.442 0.442 0.332 0.111 0.553 0.442 0.996 1.549 0.000 0.000 0.332 0.332 0.885 1.881 0.111 0.000 0.111 0.553 0.332 1.549 0.221 0.221 0.221 0.221 0.111 0.774 0.553 0.221"),
    ("MAPLEAF/Examples/Wind/WindroseFebMedecineHat.txt",
      Windrose.text "MEDICINE HAT     (CYXH)" "12171/163/12334" "1 Feb 2007 - 1 Mar 2019" "(2,)" "30 Jan 2020 20:21" "5.49"
        "1.183 0.822 0.879 1.356 0.378 0.025 1.290 0.723 0.501 0.707 0.115 0.000 0.854 0.518 0.296 0.312 0.066 0.000 0.805 0.419 0.173 0.320 0.016 0.000 0.904 0.320 0.164 0.181 0.008 0.000 0.961 0.904 0.263 0.214 0.000 0.000 1.208 1.068 0.592 0.559 0.041 0.066 1.274 0.953 0.542 0.616 0.090 0.033 0.739 0.542 0.353 0.370 0.033 0.008 0.477 0.452 0.452 0.345 0.008 0.000 0.435 0.296 0.140 0.107 0.000 0.000 0.271 0.140 0.066 0.033 0.000 0.000 0.296 0.082 0.033 0.025 0.000 0.000 0.205 0.041 0.033 0.008 0.000 0.000 0.189 0.049 0.033 0.049 0.008 0.000 0.214 0.033 0.041 0.074 0.008 0.008 0.304 0.033 0.066 0.033 0.025 0.008 0.353 0.049 0.058 0.082 0.033 0.025 0.616 0.214 0.090 0.214 0.090 0.066 0.928 0.477 0.271 0.411 0.164 0.148 1.274 0.575 0.477 1.019 0.509 0.197 1.323 1.183 1.035 2.087 0.871 0.485 1.389 1.446 1.331 2.580 0.838 0.238 1.454 1.561 1.421 2.038 0.403 0.271 0.904 1.076 0.797 0.986 0.156 0.238 0.739 0.452 0.378 0.452 0.214 0.205 0.427 0.320 0.222 0.435 0.263 0.181 0.583 0.493 0.304 0.575 0.173 0.148 0.394 0.460 0.403 0.682 0.197 0.074 0.370 0.419 0.435 0.666 0.230 0.140 0.435 0.509 0.575 0.887 0.090 0.082 0.370 0.345 0.674 1.109 0.189 0.107 0.509 0.419 0.608 1.093 0.214 0.173 0.731 0.501 0.435 1.142 0.386 0.255 0.945 0.649 0.797 0.715 0.320 0.312 1.142 0.731 0.600 0.772 0.214 0.107"),
    ("MAPLEAF/Examples/Wind/WindroseFebSchuler.txt",
      Windrose.text "SCHULER AGDM     (CXSC)" "8598/4/8602" "1 Feb 2007 - 1 Mar 2019" "(2,)" "30 Jan 2020 20:49" "7.48"
        "0.407 0.302 0.302 0.593 0.174 0.081 0.488 0.233 0.244 0.314 0.058 0.012 0.663 0.244 0.326 0.314 0.093 0.000 0.523 0.337 0.291 0.256 0.023 0.000 0.465 0.314 0.198 0.337 0.000 0.000 0.570 0.395 0.198 0.337 0.000 0.000 0.628 0.454 0.430 0.419 0.012 0.000 0.675 0.442 0.395 0.465 0.047 0.047 0.837 0.442 0.512 0.523 0.140 0.012 0.942 0.535 0.361 0.896 0.198 0.116 1.047 0.488 0.337 0.442 0.174 0.070 0.814 0.407 0.291 0.372 0.081 0.012 0.651 0.268 0.186 0.244 0.093 0.035 0.721 0.233 0.198 0.256 0.140 0.023 0.477 0.244 0.047 0.256 0.116 0.058 0.593 0.209 0.070 0.116 0.012 0.000 0.547 0.174 0.023 0.047 0.000 0.000 0.547 0.128 0.023 0.128 0.023 0.000 0.616 0.361 0.151 0.081 0.012 0.000 0.698 0.186 0.198 0.081 0.000 0.012 0.465 0.314 0.186 0.326 0.047 0.012 0.384 0.291 0.233 0.640 0.221 0.058 0.419 0.244 0.302 0.954 0.570 0.395 0.326 0.361 0.465 1.814 1.884 1.314 0.361 0.372 0.419 2.524 1.779 1.372 0.256 0.384 0.651 2.943 2.000 0.942 0.302 0.547 0.756 3.710 1.047 0.477 0.384 0.395 0.872 2.140 0.651 0.093 0.314 0.395 0.861 1.884 0.361 0.198 0.314 0.361 0.814 1.605 0.361 0.151 0.337 0.326 0.547 1.524 0.616 0.244 0.256 0.326 0.686 1.058 0.558 0.279 0.314 0.326 0.291 0.954 0.430 0.268 0.395 0.244 0.430 0.488 0.291 0.233 0.361 0.302 0.256 0.500 0.256 0.151 0.233 0.337 0.268 0.465 0.233 0.081"),
    ("MAPLEAF/Examples/Wind/WindroseFebSuffield.txt",
      Windrose.text "SUFFIELD AIRPORT (CYSD)" "1132/0/1132" "1 Feb 2007 - 24 Feb 2015" "(2,)" "30 Jan 2020 20:43" "2.56"
        "0.265 0.000 0.177 0.442 0.177 0.530 0.353 0.177 0.088 0.353 0.177 0.442 0.265 0.530 0.177 0.177 0.000 0.265 0.177 0.177 0.088 0.177 0.000 0.000 0.442 0.265 0.088 0.265 0.000 0.000 0.177 0.265 0.265 0.177 0.442 0.000 0.000 0.177 0.265 0.530 0.353 0.000 0.088 0.177 1.148 0.883 0.265 0.000 0.265 0.177 1.502 2.120 0.530 0.177 0.442 0.265 1.237 0.707 0.442 0.177 0.177 0.088 0.795 1.413 0.088 0.177 0.353 0.795 0.795 0.618 0.088 0.000 0.795 0.795 0.795 0.530 0.000 0.000 0.177 0.265 0.353 0.088 0.000 0.000 0.177 0.795 0.530 0.088 0.000 0.000 0.442 0.265 0.177 0.353 0.000 0.000 0.618 0.265 0.265 0.265 0.000 0.000 0.177 0.265 0.177 0.795 0.088 0.088 0.265 0.177 0.265 0.795 0.795 0.265 0.088 0.618 0.618 1.413 0.353 0.088 0.618 0.353 0.265 1.767 0.177 0.088 0.530 0.353 0.265 1.325 0.795 0.000 0.177 0.530 0.530 1.325 0.088 0.177 0.707 1.148 1.325 1.502 0.177 0.000 0.530 0.530 0.883 1.590 0.353 0.353 0.530 0.707 0.530 1.237 0.353 0.353 0.883 1.148 0.442 1.590 0.088 0.177 0.618 0.530 0.442 0.618 0.000 0.000 0.353 0.442 0.442 0.972 0.177 0.088 0.442 0.530 0.618 0.442 0.000 0.000 0.177 0.883 0.265 1.237 0.353 0.088 0.265 0.883 1.148 1.413 0.177 0.000 0.795 0.618 0.972 1.767 0.530 0.177 0.442 0.707 1.237 1.855 0.883 0.088 0.442 0.618 0.265 1.590 0.442 0.265 0.265 0.353 0.353 1.148 0.353 0.883"),
    ("MAPLEAF/Examples/Wind/WindroseJanMedecineHat.txt",
      Windrose.text "MEDICINE HAT     (CYXH)" "13861/237/14098" "1 Jan 2007 - 30 Jan 2020" "(1,)" "30 Jan 2020 20:21" "4.13"
        "0.967 1.061 0.707 1.263 0.548 0.260 1.003 0.808 0.577 0.808 0.180 0.036 0.527 0.368 0.310 0.289 0.014 0.000 0.635 0.325 0.137 0.260 0.014 0.000 0.440 0.195 0.115 0.216 0.058 0.000 0.440 0.375 0.289 0.216 0.043 0.000 0.678 0.678 0.433 0.368 0.051 0.007 0.577 0.570 0.375 0.296 0.022 0.000 0.534 0.404 0.332 0.137 0.014 0.000 0.426 0.310 0.209 0.144 0.007 0.000 0.354 0.115 0.087 0.058 0.000 0.000 0.317 0.065 0.014 0.014 0.000 0.000 0.296 0.014 0.000 0.007 0.000 0.000 0.209 0.022 0.014 0.007 0.000 0.000 0.180 0.051 0.014 0.000 0.007 0.000 0.224 0.043 0.007 0.000 0.000 0.000 0.346 0.072 0.022 0.000 0.000 0.000 0.447 0.108 0.101 0.065 0.065 0.036 0.541 0.303 0.115 0.152 0.087 0.051 0.801 0.556 0.317 0.346 0.137 0.123 0.837 0.657 0.519 1.111 0.592 0.339 1.241 1.003 1.270 2.633 1.284 0.758 1.046 1.659 1.941 3.528 1.248 0.592 0.945 1.371 1.955 3.066 0.635 0.368 0.895 0.750 0.844 1.320 0.253 0.274 0.613 0.433 0.375 0.678 0.260 0.577 0.447 0.354 0.339 0.729 0.483 0.563 0.274 0.390 0.455 0.996 0.534 0.527 0.440 0.375 0.512 1.010 0.455 0.180 0.382 0.462 0.418 0.801 0.368 0.209 0.354 0.469 0.462 0.786 0.339 0.260 0.368 0.491 0.404 0.628 0.152 0.101 0.397 0.390 0.491 1.010 0.556 0.332 0.512 0.519 0.649 1.176 0.714 0.750 0.678 0.534 0.440 0.786 0.657 0.830 0.844 0.743 0.317 0.671 0.346 0.180"),
    ("MAPLEAF/Examples/Wind/WindroseJanSchuler.txt",
      Windrose.text "SCHULER AGDM     (CXSC)" "10200/7/10207" "1 Jan 2007 - 30 Jan 2020" "(1,)" "30 Jan 2020 20:49" "6.52"
        "0.304 0.235 0.137 0.324 0.275 0.118 0.284 0.069 0.118 0.284 0.294 0.088 0.392 0.157 0.206 0.186 0.088 0.049 0.363 0.196 0.147 0.098 0.029 0.000 0.304 0.078 0.127 0.108 0.029 0.000 0.235 0.275 0.127 0.137 0.039 0.000 0.324 0.206 0.108 0.088 0.049 0.029 0.461 0.324 0.137 0.176 0.010 0.000 0.627 0.284 0.225 0.353 0.010 0.000 0.608 0.392 0.294 0.529 0.157 0.000 0.647 0.441 0.314 0.363 0.137 0.000 0.637 0.265 0.186 0.225 0.078 0.010 0.559 0.255 0.078 0.137 0.039 0.020 0.490 0.118 0.098 0.108 0.029 0.039 0.559 0.157 0.059 0.039 0.049 0.039 0.451 0.167 0.059 0.069 0.000 0.000 0.382 0.108 0.078 0.078 0.000 0.010 0.441 0.196 0.069 0.118 0.020 0.000 0.500 0.206 0.108 0.176 0.039 0.000 0.490 0.333 0.216 0.157 0.039 0.010 0.382 0.167 0.176 0.343 0.098 0.010 0.373 0.206 0.167 0.735 0.422 0.137 0.284 0.206 0.275 1.137 0.775 1.069 0.265 0.216 0.294 2.029 2.539 2.314 0.275 0.333 0.549 3.618 4.069 2.618 0.382 0.324 0.765 4.333 3.147 1.578 0.294 0.422 0.775 3.225 2.147 0.745 0.324 0.314 0.578 2.353 1.059 0.529 0.324 0.353 0.608 1.814 0.676 0.206 0.333 0.304 0.422 1.147 0.578 0.196 0.353 0.461 0.588 0.824 0.657 0.569 0.373 0.373 0.471 0.814 0.667 0.863 0.235 0.216 0.343 0.647 0.451 0.990 0.294 0.275 0.294 0.500 0.363 0.353 0.353 0.245 0.225 0.529 0.265 0.216 0.392 0.167 0.127 0.422 0.118 0.127"),
    ("MAPLEAF/Examples/Wind/WindroseJanSuffield.txt",
      Windrose.text "SUFFIELD AIRPORT (CYSD)" "1428/0/1428" "2 Jan 2007 - 23 Jan 2015" "(1,)" "30 Jan 2020 20:43" "1.61"
        "0.070 0.350 0.350 0.140 0.140 0.210 0.280 0.350 0.070 0.210 0.000 0.350 0.560 0.420 0.070 0.210 0.210 0.140 0.700 0.560 0.140 0.280 0.070 0.070 0.210 0.350 0.140 0.070 0.000 0.070 0.140 0.210 0.000 0.000 0.000 0.000 0.210 0.000 0.280 0.070 0.000 0.000 0.210 0.070 0.210 0.000 0.140 0.000 0.070 0.350 0.420 0.630 0.350 0.000 0.140 0.000 0.350 0.420 0.000 0.000 0.280 0.210 0.420 0.910 0.000 0.000 0.420 0.630 0.630 1.190 0.140 0.000 0.280 0.630 0.630 0.070 0.000 0.000 0.210 0.210 0.000 0.070 0.000 0.000 0.210 0.280 0.210 0.070 0.000 0.000 0.070 0.280 0.350 0.000 0.000 0.000 0.070 0.210 0.210 0.000 0.000 0.000 0.070 0.560 0.350 0.630 0.140 0.070 0.070 0.140 0.490 0.840 0.070 0.280 0.070 0.280 0.490 0.910 0.350 0.210 0.420 0.420 0.980 1.611 0.980 0.280 1.190 0.630 0.840 1.611 1.331 0.350 0.210 0.910 0.770 1.120 0.840 0.350 0.280 1.471 0.980 1.261 0.490 0.210 0.770 1.261 1.331 2.101 0.420 0.700 0.420 0.700 1.261 1.331 0.840 1.471 0.630 1.120 1.120 2.451 1.050 1.401 0.980 0.770 1.261 1.050 0.420 0.350 0.770 0.910 0.420 0.910 0.280 0.280 0.630 0.700 0.350 0.700 0.210 0.000 0.280 0.350 0.560 0.980 0.420 0.000 0.140 0.420 0.280 0.910 0.420 0.420 0.070 0.210 0.140 0.490 0.560 0.980 0.770 0.980 0.210 0.630 0.560 2.241 0.350 0.490 0.350 0.560 0.840 2.031 0.420 0.630 0.210 0.700 0.490 1.401"),
    ("MAPLEAF/Examples/Wind/WindroseJulMedecineHat.txt",
      Windrose.text "MEDICINE HAT     (CYXH)" "10667/375/11042" "1 Jul 2007 - 1 Aug 2019" "(7,)" "30 Jan 2020 20:21" "4.09"
        "0.684 0.572 0.412 0.647 0.159 0.122 0.694 0.562 0.394 0.609 0.122 0.056 0.591 0.544 0.347 0.497 0.047 0.009 0.656 0.553 0.384 0.394 0.056 0.019 0.591 0.403 0.319 0.328 0.019 0.000 0.834 0.647 0.394 0.337 0.037 0.000 0.684 0.619 0.431 0.431 0.037 0.000 0.966 0.759 0.384 0.544 0.019 0.000 0.647 0.562 0.450 0.534 0.122 0.019 0.675 0.572 0.422 0.412 0.103 0.028 0.703 0.459 0.244 0.562 0.094 0.056 0.422 0.394 0.262 0.309 0.159 0.019 0.412 0.394 0.103 0.112 0.028 0.047 0.384 0.319 0.122 0.169 0.066 0.019 0.422 0.216 0.141 0.262 0.084 0.047 0.366 0.197 0.056 0.187 0.056 0.056 0.581 0.272 0.169 0.169 0.066 0.075 0.506 0.431 0.112 0.234 0.150 0.094 0.769 0.516 0.141 0.459 0.084 0.187 0.816 0.516 0.337 0.487 0.112 0.159 0.937 0.759 0.544 0.609 0.122 0.131 1.209 1.031 0.844 1.312 0.169 0.094 1.284 1.247 1.041 1.528 0.281 0.056 1.500 1.584 1.350 1.603 0.403 0.337 1.153 1.106 1.022 1.134 0.366 0.272 0.937 1.087 0.712 1.181 0.394 0.478 0.591 0.553 0.534 0.825 0.356 0.384 0.441 0.647 0.741 0.947 0.478 0.319 0.394 0.591 0.600 0.825 0.366 0.244 0.300 0.497 0.516 0.947 0.525 0.216 0.459 0.403 0.619 1.134 0.553 0.253 0.366 0.544 0.431 1.078 0.450 0.178 0.300 0.450 0.422 0.844 0.309 0.225 0.366 0.356 0.403 0.647 0.291 0.103 0.506 0.403 0.366 0.591 0.244 0.141 0.478 0.553 0.234 0.450 0.169 0.084"),
    ("MAPLEAF/Examples/Wind/WindroseJulSchuler.txt",
      Windrose.text "SCHULER AGDM     (CXSC)" "9465/9/9474" "1 Jul 2007 - 1 Aug 2019" "(7,)" "30 Jan 2020 20:49" "5.21"
        "0.507 0.454 0.306 0.644 0.074 0.032 0.634 0.507 0.391 0.644 0.085 0.011 0.539 0.275 0.338 0.328 0.095 0.000 0.666 0.370 0.306 0.412 0.011 0.011 0.771 0.401 0.349 0.391 0.011 0.000 0.560 0.328 0.201 0.254 0.000 0.000 0.708 0.349 0.232 0.296 0.000 0.000 0.729 0.380 0.306 0.433 0.032 0.000 0.940 0.718 0.306 0.454 0.053 0.011 0.887 0.792 0.644 0.866 0.169 0.032 0.993 0.792 0.814 1.236 0.180 0.053 0.951 0.634 0.465 0.708 0.085 0.000 0.697 0.475 0.380 0.528 0.085 0.042 0.729 0.380 0.412 0.518 0.148 0.032 0.803 0.465 0.275 0.475 0.053 0.011 0.803 0.275 0.264 0.359 0.095 0.000 0.771 0.328 0.254 0.201 0.095 0.000 0.803 0.412 0.169 0.137 0.042 0.000 0.655 0.349 0.328 0.243 0.021 0.000 0.771 0.401 0.275 0.222 0.000 0.000 0.549 0.391 0.486 0.306 0.042 0.000 0.391 0.370 0.412 0.507 0.095 0.000 0.401 0.317 0.539 1.310 0.137 0.011 0.465 0.497 0.644 1.680 0.412 0.169 0.423 0.454 0.951 1.891 0.571 0.423 0.465 0.771 1.057 2.145 0.380 0.486 0.486 0.581 1.057 1.955 0.306 0.285 0.528 0.560 0.866 1.236 0.211 0.306 0.380 0.718 0.676 1.342 0.349 0.158 0.433 0.592 0.676 1.479 0.338 0.201 0.549 0.592 0.782 1.099 0.306 0.074 0.296 0.655 0.613 0.951 0.528 0.190 0.454 0.539 0.465 0.940 0.486 0.211 0.454 0.475 0.581 0.824 0.285 0.116 0.475 0.528 0.539 0.687 0.137 0.063 0.539 0.454 0.370 0.549 0.127 0.053"),
    ("MAPLEAF/Examples/Wind/WindroseJulSuffield.txt",
      Windrose.text "SUFFIELD AIRPORT (CYSD)" "1312/0/1312" "3 Jul 2007 - 31 Jul 2014" "(7,)" "30 Jan 2020 20:43" "1.83"
        "0.076 0.229 0.381 0.534 0.076 0.000 0.229 0.305 0.229 0.838 0.076 0.000 0.305 0.457 0.152 0.457 0.229 0.000 0.229 0.381 0.152 0.076 0.076 0.076 0.305 0.076 0.152 0.152 0.076 0.000 0.381 0.229 0.229 0.534 0.076 0.000 0.152 0.305 0.534 0.838 0.000 0.000 0.610 0.381 0.229 0.381 0.000 0.000 0.152 0.381 0.457 0.991 0.152 0.152 0.610 0.076 0.610 0.534 0.229 0.000 0.686 0.305 0.991 0.915 0.381 0.076 0.686 0.838 0.762 1.524 0.152 0.229 0.610 1.143 0.610 0.838 0.152 0.229 0.457 0.686 0.457 0.610 0.000 0.000 0.229 0.686 0.152 0.610 0.152 0.076 0.457 0.838 0.762 0.457 0.076 0.076 0.457 0.381 0.534 0.534 0.152 0.000 0.915 0.381 0.381 0.838 0.152 0.000 0.610 0.610 0.229 0.686 0.305 0.076 0.610 0.229 0.457 1.372 0.229 0.152 0.991 0.686 0.610 1.372 0.534 0.076 0.457 0.610 0.762 0.686 0.534 0.229 0.686 0.305 0.534 1.296 0.076 0.000 0.610 0.305 0.686 0.686 0.305 0.381 0.534 0.762 0.381 0.915 0.152 0.610 0.534 0.457 0.457 1.067 0.534 1.067 0.762 0.762 0.381 1.296 0.686 0.610 0.305 0.610 0.381 0.686 0.610 0.381 0.381 0.229 0.610 0.915 0.152 0.381 0.305 0.686 0.305 0.915 0.305 0.229 0.610 0.610 0.457 1.601 0.610 0.381 0.305 0.457 0.305 1.067 0.838 0.076 0.838 0.381 0.381 0.686 1.067 0.381 0.610 0.457 0.305 1.220 0.915 0.534 0.229 0.381 0.610 0.762 0.991 0.229 0.457 0.305 0.610 0.610 0.229 0.152"),
    ("MAPLEAF/Examples/Wind/WindroseJunMedecineHat.txt",
      Windrose.text "MEDICINE HAT     (CYXH)" "10884/330/11214" "1 Jun 2007 - 1 Jul 2019" "(6,)" "30 Jan 2020 20:21" "2.83"
        "0.496 0.423 0.294 0.570 0.129 0.046 0.606 0.570 0.368 0.579 0.165 0.046 0.671 0.423 0.358 0.441 0.074 0.000 0.515 0.413 0.303 0.478 0.165 0.009 0.524 0.340 0.266 0.570 0.083 0.028 0.717 0.404 0.423 0.616 0.046 0.018 0.698 0.450 0.368 0.542 0.147 0.074 0.616 0.707 0.386 0.652 0.165 0.046 0.524 0.579 0.395 0.524 0.147 0.092 0.487 0.625 0.404 0.735 0.110 0.055 0.487 0.413 0.377 0.450 0.074 0.028 0.478 0.349 0.294 0.413 0.064 0.009 0.386 0.331 0.138 0.285 0.037 0.000 0.340 0.230 0.211 0.266 0.037 0.000 0.395 0.294 0.129 0.119 0.064 0.028 0.322 0.175 0.138 0.193 0.064 0.009 0.616 0.312 0.147 0.211 0.147 0.055 0.634 0.276 0.266 0.266 0.175 0.092 0.717 0.395 0.413 0.505 0.147 0.110 0.680 0.597 0.459 0.606 0.156 0.064 0.873 0.919 0.652 0.845 0.239 0.119 1.103 1.075 0.900 1.534 0.423 0.193 1.406 1.378 1.148 1.534 0.331 0.230 1.424 1.580 1.286 1.470 0.441 0.423 0.900 0.919 0.707 1.433 0.551 0.505 0.864 0.854 0.588 1.617 0.662 0.689 0.515 0.689 0.643 1.240 0.533 0.441 0.524 0.588 0.597 1.277 0.707 0.368 0.450 0.377 0.413 1.259 0.579 0.248 0.230 0.340 0.487 1.057 0.432 0.266 0.239 0.368 0.588 1.194 0.377 0.239 0.230 0.377 0.533 1.204 0.331 0.294 0.294 0.303 0.257 0.919 0.221 0.349 0.312 0.340 0.221 0.551 0.211 0.386 0.368 0.266 0.294 0.616 0.276 0.119 0.276 0.239 0.165 0.551 0.119 0.092"),
    ("MAPLEAF/Examples/Wind/WindroseJunSchuler.txt",
      Windrose.text "SCHULER AGDM     (CXSC)" "9261/0/9261" "1 Jun 2007 - 1 Jul 2019" "(6,)" "30 Jan 2020 20:49" "3.87"
        "0.346 0.335 0.270 0.432 0.140 0.097 0.443 0.324 0.205 0.410 0.097 0.011 0.497 0.313 0.173 0.346 0.097 0.043 0.443 0.302 0.270 0.378 0.065 0.086 0.432 0.270 0.205 0.421 0.248 0.076 0.421 0.205 0.227 0.421 0.119 0.076 0.454 0.162 0.216 0.540 0.032 0.032 0.486 0.302 0.378 0.432 0.130 0.130 0.615 0.540 0.400 0.594 0.108 0.065 0.626 0.583 0.508 1.058 0.281 0.086 0.788 0.464 0.497 1.101 0.227 0.054 0.745 0.454 0.432 0.734 0.140 0.076 0.561 0.497 0.313 0.734 0.130 0.032 0.615 0.583 0.302 0.551 0.227 0.076 0.648 0.410 0.248 0.529 0.184 0.032 0.659 0.378 0.281 0.367 0.076 0.032 0.626 0.572 0.227 0.346 0.151 0.022 0.615 0.346 0.410 0.302 0.119 0.011 0.583 0.680 0.367 0.270 0.032 0.022 0.486 0.367 0.367 0.259 0.076 0.022 0.475 0.410 0.464 0.410 0.119 0.043 0.475 0.486 0.454 0.810 0.151 0.086 0.443 0.540 0.443 1.436 0.432 0.162 0.378 0.292 0.669 2.343 0.734 0.346 0.248 0.335 0.929 2.959 0.810 0.669 0.238 0.518 0.864 2.624 0.983 0.508 0.292 0.572 1.069 2.365 0.745 0.497 0.356 0.540 0.821 1.760 0.529 0.410 0.270 0.529 0.637 1.479 0.583 0.335 0.367 0.400 0.583 1.447 0.497 0.227 0.281 0.400 0.605 1.296 0.680 0.432 0.292 0.378 0.486 1.091 0.561 0.378 0.270 0.410 0.389 0.853 0.389 0.410 0.292 0.356 0.292 0.475 0.367 0.259 0.292 0.227 0.216 0.551 0.216 0.194 0.335 0.346 0.238 0.561 0.140 0.130"),
    ("MAPLEAF/Examples/Wind/WindroseJunSuffield.txt",
      Windrose.text "SUFFIELD AIRPORT (CYSD)" "1323/0/1323" "1 Jun 2007 - 30 Jun 2014" "(6,)" "30 Jan 2020 20:43" "0.83"
        "0.151 0.151 0.302 0.756 0.000 0.302 0.151 0.227 0.076 0.378 0.454 0.302 0.000 0.076 0.227 0.227 0.076 0.076 0.151 0.378 0.000 0.529 0.151 0.076 0.227 0.227 0.151 0.378 0.227 0.151 0.076 0.227 0.302 0.756 0.378 0.227 0.151 0.227 0.454 1.361 0.680 0.227 0.529 0.151 0.302 0.605 0.076 0.000 0.151 0.454 0.151 0.907 0.302 0.227 0.227 0.378 0.151 0.831 0.000 0.076 0.302 0.302 0.454 1.361 0.680 0.227 0.378 0.605 0.454 1.436 0.227 0.076 0.605 0.680 0.454 0.983 0.302 0.000 0.378 0.000 0.529 0.227 0.000 0.000 0.605 0.529 0.302 0.378 0.076 0.000 0.302 0.302 0.378 0.529 0.151 0.076 0.529 0.831 0.378 0.227 0.000 0.000 0.529 0.378 0.378 0.680 0.227 0.151 0.302 0.378 0.227 0.378 0.227 0.302 0.302 0.605 0.378 0.454 0.302 0.076 0.378 0.605 0.529 0.907 0.151 0.076 0.605 0.529 0.907 0.907 0.076 0.151 0.378 0.605 0.680 0.907 0.151 0.227 0.529 0.680 0.227 0.831 0.680 0.227 0.907 0.680 0.756 1.058 0.756 0.378 0.378 0.756 0.907 0.907 1.209 0.907 0.680 0.680 0.680 1.512 1.512 0.907 0.529 0.302 0.605 1.058 0.605 0.378 0.454 0.831 0.680 1.134 0.605 0.378 0.302 0.378 0.529 1.361 0.302 0.378 0.529 1.058 0.680 1.663 1.209 0.529 0.227 0.529 0.529 1.436 0.454 0.529 0.076 0.529 0.378 1.209 0.605 0.756 0.302 0.227 0.227 1.814 0.831 0.680 0.151 0.302 0.151 0.605 0.454 0.151 0.529 0.151 0.227 0.605 0.302 0.529"),
    ("MAPLEAF/Examples/Wind/WindroseMarMedecineHat.txt",
      Windrose.text "MEDICINE HAT     (CYXH)" "12200/274/12474" "1 Mar 2007 - 31 Mar 2019" "(3,)" "30 Jan 2020 20:21" "4.45"
        "1.098 0.943 0.648 1.025 0.205 0.221 1.041 0.754 0.533 0.893 0.049 0.197 1.016 0.549 0.385 0.352 0.033 0.041 0.738 0.590 0.361 0.369 0.041 0.008 0.566 0.459 0.459 0.451 0.041 0.008 0.770 0.574 0.434 0.598 0.057 0.000 0.902 0.770 0.574 1.066 0.074 0.000 0.893 0.811 0.828 1.090 0.131 0.000 0.795 0.615 0.443 0.689 0.107 0.000 0.746 0.443 0.377 0.246 0.082 0.025 0.500 0.311 0.213 0.139 0.057 0.000 0.344 0.189 0.066 0.139 0.008 0.000 0.213 0.057 0.049 0.066 0.008 0.000 0.295 0.107 0.074 0.041 0.000 0.008 0.328 0.107 0.049 0.066 0.033 0.000 0.213 0.139 0.025 0.066 0.033 0.016 0.328 0.107 0.074 0.090 0.057 0.049 0.361 0.164 0.131 0.320 0.148 0.164 0.566 0.303 0.164 0.459 0.189 0.123 0.648 0.434 0.344 0.623 0.197 0.139 0.770 0.639 0.590 1.164 0.492 0.197 0.959 0.803 0.926 2.377 0.918 0.574 0.967 1.025 1.615 2.656 1.000 0.533 0.984 1.279 1.557 2.090 0.590 0.516 0.852 0.689 0.648 0.910 0.352 0.525 0.713 0.516 0.336 0.557 0.336 0.631 0.525 0.402 0.279 0.664 0.270 0.344 0.574 0.484 0.287 0.730 0.303 0.139 0.590 0.443 0.467 0.508 0.246 0.156 0.451 0.369 0.393 0.549 0.098 0.123 0.287 0.361 0.459 0.607 0.180 0.139 0.320 0.393 0.295 0.516 0.213 0.164 0.361 0.418 0.344 0.639 0.377 0.074 0.410 0.385 0.475 0.746 0.557 0.221 0.746 0.516 0.402 0.746 0.484 0.303 0.844 0.648 0.525 0.746 0.320 0.295"),
    ("MAPLEAF/Examples/Wind/WindroseMarSchuler.txt",
      Windrose.text "SCHULER AGDM     (CXSC)" "9545/1/9546" "1 Mar 2007 - 31 Mar 2019" "(3,)" "30 Jan 2020 20:49" "5.67"
        "0.367 0.272 0.272 0.398 0.084 0.084 0.262 0.346 0.230 0.367 0.126 0.157 0.388 0.314 0.168 0.283 0.052 0.052 0.419 0.335 0.230 0.482 0.031 0.042 0.398 0.283 0.272 0.283 0.042 0.021 0.492 0.251 0.168 0.367 0.105 0.010 0.639 0.325 0.189 0.618 0.084 0.000 0.681 0.409 0.325 0.838 0.126 0.010 0.891 0.618 0.461 0.712 0.199 0.105 0.859 0.534 0.513 1.121 0.482 0.388 1.016 0.450 0.524 1.100 0.293 0.063 0.838 0.503 0.304 0.681 0.126 0.063 0.660 0.398 0.388 0.629 0.073 0.021 0.566 0.262 0.304 0.608 0.147 0.094 0.723 0.356 0.147 0.367 0.126 0.084 0.608 0.272 0.105 0.262 0.094 0.063 0.744 0.189 0.220 0.189 0.073 0.042 0.639 0.283 0.210 0.272 0.042 0.010 0.702 0.304 0.293 0.409 0.031 0.010 0.545 0.262 0.325 0.367 0.094 0.021 0.492 0.440 0.293 0.566 0.094 0.042 0.377 0.272 0.409 1.006 0.409 0.168 0.398 0.210 0.304 1.519 0.870 0.723 0.304 0.304 0.367 2.158 2.022 1.289 0.304 0.272 0.576 2.452 1.854 1.226 0.272 0.283 0.629 2.776 1.456 0.702 0.210 0.377 0.712 2.598 1.037 0.356 0.210 0.335 0.503 1.530 0.346 0.199 0.157 0.272 0.534 1.069 0.461 0.147 0.251 0.272 0.398 1.320 0.346 0.178 0.241 0.283 0.377 1.257 0.314 0.178 0.199 0.251 0.440 0.859 0.398 0.335 0.241 0.398 0.482 0.964 0.471 0.482 0.230 0.199 0.325 0.691 0.398 0.335 0.251 0.230 0.293 0.681 0.199 0.115 0.199 0.346 0.220 0.367 0.157 0.094"),
    ("MAPLEAF/Examples/Wind/WindroseMarSuffield.txt",
      Windrose.text "SUFFIELD AIRPORT (CYSD)" "1130/0/1130" "1 Mar 2007 - 31 Mar 2015" "(3,)" "30 Jan 2020 20:43" "2.12"
        "0.354 0.442 0.088 0.531 0.531 0.442 0.619 0.177 0.265 0.088 0.265 0.177 0.354 0.265 0.354 0.531 0.177 0.177 0.442 0.708 0.354 0.088 0.000 0.000 0.177 0.442 0.088 0.177 0.000 0.000 0.265 0.177 0.531 0.265 0.000 0.000 0.354 0.531 0.177 0.088 0.000 0.000 0.000 0.619 0.177 0.088 0.000 0.000 0.442 0.265 0.796 1.239 0.088 0.000 0.619 0.531 0.708 0.708 0.000 0.000 0.354 1.062 1.327 0.796 0.354 0.177 0.265 1.327 1.150 0.177 0.177 0.088 0.265 0.973 0.796 0.354 0.088 0.000 0.354 0.619 0.442 0.354 0.000 0.000 0.177 0.442 0.265 0.354 0.000 0.000 0.088 0.088 0.177 0.265 0.000 0.000 0.354 0.177 0.177 0.354 0.265 0.000 0.442 0.442 0.088 0.265 0.265 0.708 0.265 0.354 0.354 0.708 0.354 0.531 0.354 0.442 0.354 1.681 0.354 0.796 0.177 0.000 0.088 1.504 0.708 0.531 1.150 0.708 0.708 1.770 0.708 0.531 0.265 0.177 0.354 0.354 0.265 0.796 0.442 0.619 0.796 1.327 0.088 0.265 0.354 1.504 1.062 0.796 0.442 0.796 0.265 0.708 0.619 0.885 0.708 1.770 0.265 0.619 0.708 1.416 0.796 1.858 0.531 0.354 0.796 0.885 0.354 0.619 0.619 0.265 0.796 0.796 0.354 0.354 0.619 0.531 0.177 0.265 0.177 0.354 0.619 0.619 0.354 0.531 0.265 0.619 0.354 0.000 0.265 1.062 0.531 0.265 0.531 0.354 0.531 0.885 0.354 0.442 0.265 0.619 0.442 0.885 0.177 1.150 0.442 0.442 0.088 0.973 0.619 1.239 0.796 0.442 0.265 0.442 0.088 0.708"),
    ("MAPLEAF/Examples/Wind/WindroseMayMedecineHat.txt",
      Windrose.text "MEDICINE HAT     (CYXH)" "11413/392/11805" "1 May 2007 - 1 Jun 2019" "(5,)" "30 Jan 2020 20:21" "3.45"
        "0.648 0.526 0.613 1.411 0.368 0.175 0.675 0.675 0.727 0.990 0.193 0.131 0.622 0.613 0.359 0.596 0.096 0.044 0.613 0.526 0.447 0.666 0.044 0.018 0.421 0.499 0.412 0.999 0.114 0.018 0.789 0.657 0.499 0.745 0.096 0.026 0.902 0.710 0.429 0.596 0.096 0.018 0.797 0.736 0.631 0.666 0.114 0.035 0.578 0.613 0.561 0.789 0.105 0.018 0.727 0.517 0.473 0.832 0.245 0.044 0.622 0.447 0.368 0.657 0.166 0.079 0.517 0.307 0.245 0.403 0.123 0.070 0.386 0.368 0.228 0.315 0.096 0.070 0.272 0.245 0.210 0.403 0.053 0.026 0.412 0.210 0.175 0.237 0.061 0.044 0.333 0.263 0.219 0.324 0.166 0.044 0.333 0.315 0.280 0.386 0.228 0.061 0.412 0.350 0.298 0.421 0.219 0.088 0.683 0.421 0.237 0.552 0.210 0.140 0.876 0.429 0.394 0.570 0.368 0.061 0.832 0.456 0.412 0.657 0.377 0.079 0.824 0.841 0.701 1.192 0.350 0.096 0.920 1.122 0.981 1.472 0.342 0.123 0.911 1.086 0.973 1.051 0.280 0.210 0.613 0.745 0.666 0.701 0.350 0.359 0.561 0.359 0.333 0.824 0.386 0.429 0.429 0.263 0.289 0.850 0.429 0.298 0.543 0.421 0.456 0.815 0.421 0.298 0.272 0.333 0.386 0.938 0.272 0.175 0.298 0.324 0.386 0.946 0.324 0.123 0.333 0.613 0.412 1.078 0.272 0.237 0.272 0.464 0.421 1.025 0.377 0.640 0.482 0.438 0.622 0.885 0.280 0.289 0.324 0.473 0.578 0.885 0.438 0.333 0.508 0.421 0.508 0.867 0.386 0.403 0.543 0.447 0.377 0.780 0.333 0.123"),
    ("MAPLEAF/Examples/Wind/WindroseMaySchuler.txt",
      Windrose.text "SCHULER AGDM     (CXSC)" "9445/6/9451" "1 May 2007 - 1 Jun 2019" "(5,)" "30 Jan 2020 20:49" "3.83"
        "0.466 0.360 0.360 0.635 0.392 0.318 0.286 0.339 0.434 0.603 0.212 0.159 0.434 0.360 0.318 0.603 0.286 0.095 0.381 0.349 0.360 0.508 0.116 0.042 0.413 0.349 0.318 0.635 0.191 0.053 0.349 0.275 0.275 0.741 0.307 0.032 0.455 0.275 0.296 0.646 0.307 0.053 0.551 0.307 0.275 0.625 0.148 0.106 0.625 0.455 0.445 1.016 0.159 0.095 0.805 0.519 0.572 1.091 0.434 0.116 0.699 0.424 0.508 1.218 0.593 0.360 0.593 0.476 0.244 0.794 0.381 0.296 0.455 0.191 0.434 0.678 0.222 0.275 0.466 0.307 0.233 0.815 0.413 0.169 0.445 0.286 0.371 0.858 0.328 0.169 0.593 0.265 0.349 0.603 0.148 0.064 0.487 0.445 0.392 0.519 0.222 0.021 0.455 0.392 0.614 0.688 0.201 0.042 0.529 0.487 0.625 0.476 0.138 0.064 0.392 0.455 0.445 0.561 0.191 0.021 0.360 0.339 0.402 0.731 0.159 0.074 0.328 0.296 0.455 0.805 0.275 0.106 0.318 0.318 0.402 1.260 0.434 0.180 0.169 0.212 0.402 1.578 0.815 0.296 0.328 0.222 0.466 2.043 0.646 0.508 0.233 0.233 0.519 1.821 0.783 0.582 0.191 0.328 0.371 1.461 0.625 0.360 0.233 0.318 0.434 1.239 0.413 0.339 0.296 0.307 0.381 0.911 0.402 0.296 0.275 0.148 0.328 0.974 0.286 0.286 0.254 0.307 0.519 1.196 0.434 0.349 0.254 0.508 0.540 1.387 0.445 0.307 0.212 0.487 0.498 1.218 0.466 0.635 0.339 0.360 0.519 0.974 0.551 0.508 0.349 0.381 0.360 0.762 0.614 0.244 0.402 0.275 0.360 0.794 0.529 0.212"),
    ("MAPLEAF/Examples/Wind/WindroseMaySuffield.txt",
      Windrose.text "SUFFIELD AIRPORT (CYSD)" "1261/0/1261" "1 May 2007 - 29 May 2014" "(5,)" "30 Jan 2020 20:43" "1.19"
        "0.238 0.397 0.476 1.190 0.714 0.793 0.238 0.238 0.079 1.031 0.793 0.476 0.555 0.317 0.000 0.397 0.714 0.238 0.000 0.159 0.079 0.476 0.317 0.079 0.159 0.000 0.079 0.397 0.079 0.000 0.317 0.159 0.238 1.269 0.159 0.000 0.476 0.079 0.555 1.031 0.555 0.079 0.317 0.476 0.159 0.714 0.238 0.238 0.238 0.317 0.634 0.793 0.634 0.397 0.476 0.317 0.714 0.476 0.634 0.079 0.159 0.793 0.555 1.824 0.555 0.555 0.317 0.555 0.555 1.427 0.397 0.317 0.397 0.555 0.476 0.952 0.238 0.317 0.079 0.159 0.238 0.317 0.079 0.000 0.159 0.634 0.317 0.555 0.317 0.079 0.000 0.317 0.397 0.714 0.317 0.238 0.000 0.317 0.476 0.793 1.031 0.159 0.238 0.079 0.476 0.238 0.476 0.397 0.317 0.476 0.317 0.476 0.555 0.000 0.159 0.476 0.397 1.507 0.476 0.079 0.317 0.317 0.079 1.110 0.317 0.079 0.397 0.317 0.634 0.872 1.031 0.079 0.159 0.238 0.397 0.872 0.317 0.476 0.238 0.159 0.634 0.317 0.079 0.397 0.159 0.238 0.079 0.952 0.397 0.872 0.317 0.317 0.555 0.872 0.634 1.110 0.634 0.476 0.634 0.714 1.110 0.397 0.238 0.317 0.000 0.714 0.397 0.397 0.397 0.000 0.634 0.397 0.317 0.634 0.397 0.238 0.397 0.793 0.476 0.397 0.397 0.159 0.317 0.714 0.634 0.476 0.079 0.317 0.238 0.872 0.397 0.317 0.397 0.634 0.555 0.634 0.397 0.476 0.476 0.397 0.238 1.745 0.872 1.427 0.238 0.397 0.634 1.586 0.714 0.952 0.238 0.317 0.317 2.220 0.952 0.397"),
    ("MAPLEAF/Examples/Wind/WindroseNovMedecineHat.txt",
      Windrose.text "MEDICINE HAT     (CYXH)" "11948/174/12122" "1 Nov 2007 - 30 Nov 2019" "(11,)" "30 Jan 2020 20:21" "3.19"
        "0.636 0.862 0.845 0.787 0.167 0.092 0.686 0.578 0.770 0.569 0.075 0.109 0.368 0.385 0.368 0.477 0.142 0.084 0.452 0.393 0.176 0.494 0.067 0.025 0.410 0.293 0.243 0.418 0.084 0.017 0.427 0.427 0.352 0.770 0.243 0.000 0.552 0.544 0.435 0.435 0.059 0.008 0.611 0.511 0.435 0.285 0.008 0.008 0.410 0.460 0.310 0.184 0.000 0.000 0.460 0.335 0.209 0.167 0.000 0.000 0.552 0.209 0.075 0.100 0.000 0.000 0.259 0.075 0.017 0.008 0.000 0.000 0.276 0.109 0.017 0.008 0.000 0.000 0.251 0.025 0.025 0.008 0.000 0.000 0.226 0.050 0.008 0.017 0.000 0.000 0.184 0.067 0.025 0.050 0.008 0.000 0.343 0.084 0.033 0.059 0.033 0.008 0.377 0.159 0.042 0.100 0.059 0.017 0.644 0.368 0.251 0.285 0.067 0.033 1.063 0.619 0.444 0.695 0.201 0.100 1.013 0.963 0.653 1.674 0.644 0.368 1.004 1.255 1.339 3.247 1.348 0.820 1.339 1.808 2.168 3.741 1.063 0.728 1.214 1.557 2.059 2.519 0.544 0.377 0.812 0.845 0.963 0.845 0.226 0.293 0.711 0.737 0.435 0.527 0.218 0.335 0.561 0.519 0.485 0.552 0.251 0.385 0.544 0.519 0.561 0.887 0.243 0.410 0.519 0.485 0.485 1.155 0.243 0.100 0.385 0.477 0.502 1.214 0.276 0.176 0.444 0.460 0.653 1.398 0.343 0.134 0.310 0.427 0.586 1.080 0.293 0.218 0.285 0.435 0.460 1.038 0.301 0.218 0.393 0.435 0.427 1.013 0.226 0.134 0.452 0.544 0.310 0.536 0.167 0.059 0.477 0.561 0.385 0.578 0.126 0.126"),
    ("MAPLEAF/Examples/Wind/WindroseNovSchuler.txt",
      Windrose.text "SCHULER AGDM     (CXSC)" "9189/4/9193" "1 Nov 2007 - 30 Nov 2019" "(11,)" "30 Jan 2020 20:49" "4.47"
        "0.261 0.152 0.218 0.272 0.131 0.131 0.305 0.131 0.207 0.283 0.131 0.022 0.218 0.272 0.163 0.261 0.022 0.044 0.414 0.261 0.185 0.272 0.044 0.022 0.326 0.152 0.141 0.261 0.033 0.000 0.326 0.207 0.098 0.218 0.098 0.022 0.337 0.131 0.152 0.381 0.196 0.000 0.414 0.185 0.196 0.403 0.109 0.000 0.381 0.196 0.141 0.316 0.033 0.000 0.620 0.239 0.239 0.446 0.076 0.033 0.762 0.326 0.370 0.381 0.141 0.000 0.784 0.185 0.239 0.283 0.033 0.000 0.588 0.250 0.239 0.185 0.087 0.022 0.544 0.283 0.152 0.229 0.185 0.033 0.468 0.316 0.174 0.152 0.098 0.076 0.686 0.337 0.098 0.054 0.022 0.022 0.522 0.283 0.152 0.098 0.033 0.000 0.566 0.250 0.207 0.141 0.033 0.000 0.773 0.326 0.283 0.326 0.000 0.000 0.577 0.403 0.305 0.326 0.033 0.000 0.468 0.239 0.337 0.947 0.185 0.109 0.337 0.283 0.501 1.295 0.468 0.261 0.403 0.218 0.479 2.209 1.219 0.849 0.316 0.272 0.653 3.493 2.895 1.600 0.294 0.337 0.566 3.765 2.220 1.447 0.337 0.370 0.925 4.407 1.676 0.947 0.250 0.424 0.827 3.482 0.599 0.348 0.359 0.359 0.729 2.449 0.294 0.196 0.218 0.370 0.675 2.046 0.555 0.174 0.283 0.414 0.773 1.415 0.457 0.229 0.250 0.414 0.729 1.001 0.881 0.294 0.272 0.370 0.501 1.175 0.686 0.511 0.261 0.305 0.370 1.012 0.424 0.337 0.250 0.359 0.337 0.664 0.305 0.120 0.272 0.261 0.305 0.359 0.174 0.044 0.305 0.174 0.174 0.283 0.087 0.044"),
    ("MAPLEAF/Examples/Wind/WindroseNovSuffield.txt",
      Windrose.text "SUFFIELD AIRPORT (CYSD)" "1055/0/1055" "1 Nov 2007 - 27 Nov 2014" "(11,)" "30 Jan 2020 20:43" "2.65"
        "0.190 0.284 0.095 0.284 0.664 0.284 0.379 0.000 0.379 0.664 0.664 0.000 0.284 0.569 0.190 0.664 0.000 0.190 0.095 0.095 0.284 0.379 0.095 0.000 0.000 0.190 0.190 0.284 0.000 0.000 0.095 0.095 0.095 0.284 0.000 0.000 0.284 0.190 0.095 0.948 0.284 0.000 0.000 0.095 0.284 0.569 0.190 0.000 0.095 0.379 0.284 0.569 0.095 0.000 0.379 0.284 0.284 0.758 0.000 0.000 0.284 0.758 0.569 0.853 0.000 0.000 0.095 0.569 1.043 0.569 0.000 0.000 0.474 0.664 0.948 0.190 0.000 0.000 0.569 0.190 0.664 0.379 0.095 0.000 0.095 0.190 0.664 0.000 0.000 0.095 0.095 0.284 0.095 0.190 0.095 0.000 0.284 0.664 0.190 0.190 0.379 0.000 0.758 0.379 0.664 0.284 0.379 0.000 0.190 0.474 0.284 0.853 0.379 0.095 0.284 0.284 0.190 0.569 0.474 0.190 0.948 0.569 0.379 1.327 1.611 0.379 0.758 0.758 0.569 1.801 0.569 1.232 0.379 0.474 0.190 0.948 0.853 0.853 0.474 0.758 0.190 0.474 0.474 1.232 0.948 0.758 0.474 0.569 0.190 1.327 0.569 0.569 0.474 1.137 0.664 0.569 0.853 1.327 1.422 0.569 0.474 1.137 0.664 0.948 0.284 0.569 0.190 0.284 0.664 0.853 0.569 0.569 0.284 0.095 0.948 0.474 0.569 0.853 0.095 0.095 0.474 0.474 0.664 1.517 0.190 0.095 0.664 0.379 0.284 1.611 0.569 0.284 0.379 0.474 0.190 1.232 1.422 0.190 1.232 0.474 0.284 1.896 2.180 0.948 0.190 0.474 0.379 1.232 0.758 0.095 0.190 0.000 0.284 0.853 0.190 0.190"),
    ("MAPLEAF/Examples/Wind/WindroseOctMedecineHat.txt",
      Windrose.text "MEDICINE HAT     (CYXH)" "11480/229/11709" "1 Oct 2007 - 1 Nov 2019" "(10,)" "30 Jan 2020 20:21" "4.59"
        "0.575 0.575 0.505 0.592 0.244 0.035 0.514 0.409 0.392 0.549 0.061 0.052 0.514 0.514 0.270 0.470 0.026 0.000 0.549 0.279 0.392 0.401 0.078 0.017 0.453 0.235 0.331 0.322 0.044 0.017 0.618 0.331 0.401 0.470 0.035 0.000 0.758 0.505 0.409 0.348 0.017 0.000 0.749 0.453 0.453 0.401 0.017 0.000 0.610 0.322 0.209 0.253 0.000 0.000 0.453 0.270 0.287 0.174 0.017 0.000 0.409 0.279 0.287 0.226 0.000 0.000 0.392 0.087 0.052 0.139 0.009 0.000 0.470 0.078 0.026 0.035 0.000 0.000 0.331 0.105 0.026 0.044 0.000 0.000 0.427 0.070 0.052 0.078 0.000 0.009 0.401 0.131 0.061 0.052 0.026 0.044 0.392 0.174 0.105 0.113 0.087 0.009 0.549 0.279 0.200 0.348 0.148 0.052 0.845 0.505 0.253 0.505 0.253 0.070 0.845 0.540 0.584 0.819 0.279 0.148 1.150 0.854 0.793 1.341 0.392 0.218 1.437 0.923 1.280 2.753 0.880 0.444 1.246 1.690 1.533 2.387 0.697 0.436 1.237 1.446 1.263 1.707 0.348 0.331 1.098 0.871 0.679 0.793 0.427 0.462 0.767 0.523 0.453 0.679 0.392 0.531 0.409 0.383 0.392 0.819 0.444 0.392 0.392 0.383 0.601 0.845 0.305 0.270 0.409 0.444 0.514 0.932 0.470 0.226 0.305 0.314 0.514 1.385 0.514 0.279 0.340 0.531 0.697 1.298 0.287 0.200 0.253 0.392 0.540 1.211 0.436 0.192 0.305 0.357 0.488 1.577 0.566 0.305 0.253 0.261 0.287 1.394 0.906 0.784 0.383 0.218 0.253 0.662 0.488 0.418 0.401 0.209 0.383 0.740 0.444 0.122"),
    ("MAPLEAF/Examples/Wind/WindroseOctSchuler.txt",
      Windrose.text "SCHULER AGDM     (CXSC)" "9487/3/9490" "1 Oct 2007 - 1 Nov 2019" "(10,)" "30 Jan 2020 20:49" "4.89"
        "0.148 0.221 0.221 0.285 0.126 0.042 0.242 0.211 0.158 0.211 0.116 0.000 0.306 0.285 0.169 0.232 0.053 0.000 0.264 0.200 0.137 0.295 0.042 0.000 0.253 0.169 0.137 0.285 0.053 0.011 0.379 0.105 0.105 0.253 0.063 0.000 0.401 0.158 0.169 0.169 0.084 0.011 0.474 0.190 0.148 0.211 0.000 0.000 0.527 0.211 0.126 0.137 0.042 0.011 0.748 0.264 0.242 0.474 0.095 0.000 0.812 0.274 0.295 0.611 0.369 0.074 0.696 0.306 0.232 0.432 0.137 0.084 0.601 0.232 0.190 0.516 0.053 0.042 0.611 0.190 0.253 0.369 0.169 0.095 0.559 0.306 0.348 0.580 0.200 0.042 0.348 0.295 0.200 0.264 0.074 0.032 0.706 0.285 0.253 0.316 0.084 0.000 0.780 0.443 0.369 0.369 0.032 0.011 0.738 0.411 0.411 0.348 0.074 0.000 0.632 0.569 0.358 0.411 0.074 0.011 0.527 0.432 0.474 0.675 0.095 0.021 0.495 0.264 0.485 1.075 0.306 0.032 0.401 0.369 0.611 1.908 0.717 0.369 0.369 0.358 0.527 2.403 1.602 0.717 0.337 0.401 0.601 3.025 1.771 0.980 0.169 0.379 0.917 3.932 1.297 0.748 0.337 0.411 0.917 2.688 0.769 0.316 0.295 0.559 0.822 2.013 0.611 0.095 0.137 0.411 0.717 1.813 0.516 0.063 0.274 0.485 0.485 1.813 0.685 0.390 0.316 0.432 0.527 1.244 0.780 0.569 0.327 0.516 0.559 1.286 0.812 0.685 0.358 0.485 0.495 1.170 0.748 0.980 0.285 0.327 0.379 0.822 0.390 0.527 0.221 0.200 0.190 0.516 0.411 0.274 0.221 0.169 0.274 0.453 0.264 0.242"),
    ("MAPLEAF/Examples/Wind/WindroseOctSuffield.txt",
      Windrose.text "SUFFIELD AIRPORT (CYSD)" "1312/0/1312" "1 Oct 2007 - 30 Oct 2014" "(10,)" "30 Jan 2020 20:43" "1.07"
        "0.000 0.076 0.000 0.305 0.305 0.305 0.152 0.229 0.076 0.000 0.305 0.152 0.152 0.381 0.076 0.229 0.381 0.076 0.305 0.000 0.152 0.686 0.000 0.152 0.152 0.000 0.000 0.305 0.610 0.000 0.000 0.305 0.000 0.152 0.152 0.000 0.305 0.000 0.076 0.229 0.000 0.000 0.152 0.076 0.076 0.152 0.000 0.000 0.076 0.305 0.457 0.534 0.152 0.000 0.229 0.229 0.229 0.305 0.000 0.000 0.152 0.305 0.457 0.838 0.229 0.000 0.152 0.076 0.457 0.915 0.381 0.000 0.457 0.534 0.610 1.372 0.000 0.000 0.534 0.457 0.152 0.305 0.000 0.000 0.381 0.381 0.457 0.534 0.000 0.000 0.534 0.457 0.229 0.229 0.000 0.000 0.229 0.381 0.229 0.229 0.076 0.000 0.152 0.534 0.229 0.686 0.610 0.152 0.000 0.076 0.305 0.457 0.686 0.457 0.381 0.686 0.915 0.991 0.838 0.229 0.229 0.305 0.915 1.905 0.838 0.076 0.381 1.448 0.915 1.448 0.762 0.152 0.305 0.305 0.305 0.991 0.534 0.229 0.534 0.381 0.686 1.143 0.305 0.305 0.534 0.686 0.610 1.372 0.457 0.991 0.991 0.915 0.534 0.686 0.457 1.067 0.534 0.915 1.524 1.524 0.991 1.448 0.991 0.457 0.991 0.229 0.305 0.610 0.610 0.838 0.610 1.220 0.229 0.152 0.457 0.534 1.067 1.143 0.381 0.000 0.762 0.610 0.991 2.287 0.457 0.076 0.457 0.305 1.220 1.448 0.534 0.457 0.381 0.305 0.229 1.677 1.220 0.534 0.457 0.610 0.381 1.753 1.296 1.143 0.305 0.305 0.229 0.991 0.915 0.381 0.229 0.152 0.000 0.991 0.991 0.534"),
    ("MAPLEAF/Examples/Wind/WindroseSepMedecineHat.txt",
      Windrose.text "MEDICINE HAT     (CYXH)" "10587/304/10891" "1 Sep 2007 - 1 Oct 2019" "(9,)" "30 Jan 2020 20:21" "5.37"
        "0.661 0.614 0.510 0.916 0.179 0.066 0.737 0.510 0.661 1.077 0.217 0.047 0.642 0.614 0.397 0.614 0.085 0.028 0.860 0.529 0.368 0.520 0.227 0.047 0.803 0.548 0.378 0.699 0.208 0.104 0.831 0.548 0.425 0.822 0.085 0.009 0.897 0.586 0.472 0.623 0.142 0.000 0.897 0.529 0.387 0.567 0.038 0.000 0.614 0.557 0.312 0.434 0.019 0.000 0.642 0.406 0.189 0.227 0.038 0.028 0.425 0.472 0.161 0.123 0.009 0.000 0.340 0.312 0.094 0.123 0.019 0.000 0.406 0.198 0.066 0.113 0.000 0.000 0.349 0.142 0.085 0.028 0.000 0.000 0.567 0.179 0.094 0.151 0.000 0.000 0.463 0.208 0.094 0.142 0.085 0.019 0.510 0.189 0.179 0.208 0.113 0.047 0.652 0.444 0.217 0.378 0.123 0.047 0.935 0.425 0.217 0.463 0.227 0.085 1.171 0.661 0.434 0.718 0.264 0.047 1.285 0.784 0.633 1.020 0.198 0.047 1.492 1.256 1.171 2.305 0.368 0.104 1.691 1.540 1.615 2.106 0.331 0.132 1.445 1.691 1.124 1.455 0.293 0.198 1.030 0.699 0.699 0.926 0.520 0.425 0.793 0.671 0.387 0.888 0.312 0.557 0.557 0.482 0.444 0.897 0.378 0.246 0.576 0.453 0.491 0.775 0.340 0.208 0.529 0.378 0.416 0.642 0.198 0.066 0.387 0.387 0.416 0.623 0.151 0.076 0.264 0.482 0.425 0.623 0.189 0.085 0.302 0.529 0.378 0.690 0.189 0.123 0.321 0.482 0.359 0.775 0.189 0.028 0.349 0.378 0.378 0.831 0.264 0.076 0.520 0.283 0.397 0.642 0.189 0.094 0.661 0.340 0.264 0.633 0.170 0.009"),
    ("MAPLEAF/Examples/Wind/WindroseSepSchuler.txt",
      Windrose.text "SCHULER AGDM     (CXSC)" "9246/0/9246" "1 Sep 2007 - 1 Oct 2019" "(9,)" "30 Jan 2020 20:49" "5.87"
        "0.465 0.346 0.357 0.454 0.141 0.043 0.498 0.379 0.433 0.519 0.087 0.043 0.433 0.411 0.281 0.476 0.097 0.011 0.389 0.368 0.270 0.519 0.108 0.022 0.519 0.238 0.249 0.346 0.087 0.108 0.487 0.260 0.249 0.573 0.151 0.097 0.519 0.162 0.162 0.638 0.151 0.000 0.487 0.249 0.400 0.541 0.076 0.000 0.714 0.389 0.379 0.389 0.119 0.011 0.995 0.346 0.303 0.562 0.195 0.011 0.898 0.335 0.238 0.498 0.173 0.022 0.649 0.314 0.303 0.411 0.043 0.054 0.714 0.368 0.238 0.314 0.076 0.054 0.562 0.335 0.260 0.508 0.151 0.076 0.714 0.357 0.195 0.508 0.195 0.087 0.725 0.368 0.303 0.270 0.151 0.054 0.562 0.530 0.216 0.454 0.097 0.032 0.779 0.530 0.552 0.292 0.087 0.011 0.800 0.562 0.595 0.314 0.022 0.000 0.735 0.422 0.487 0.270 0.043 0.011 0.638 0.303 0.400 0.443 0.065 0.000 0.422 0.411 0.616 0.854 0.195 0.022 0.433 0.443 0.465 1.763 0.422 0.087 0.335 0.324 0.519 2.617 1.027 0.184 0.216 0.433 0.649 2.704 1.071 0.681 0.368 0.422 0.854 2.790 0.854 0.649 0.314 0.487 1.006 2.412 0.433 0.281 0.314 0.335 0.746 1.785 0.379 0.281 0.270 0.335 0.757 1.384 0.281 0.162 0.184 0.379 0.844 1.395 0.335 0.130 0.270 0.562 0.671 1.092 0.422 0.130 0.303 0.487 0.671 1.060 0.519 0.303 0.389 0.476 0.616 1.082 0.519 0.195 0.357 0.465 0.552 0.681 0.195 0.151 0.476 0.379 0.368 0.498 0.314 0.076 0.411 0.314 0.292 0.411 0.151 0.130"),
    ("MAPLEAF/Examples/Wind/WindroseSepSuffield.txt",
      Windrose.text "SUFFIELD AIRPORT (CYSD)" "1178/0/1178" "4 Sep 2007 - 30 Sep 2014" "(9,)" "30 Jan 2020 20:43" "1.87"
        "0.085 0.000 0.170 0.509 0.340 0.170 0.085 0.255 0.000 0.594 0.340 0.085 0.255 0.170 0.170 0.424 0.340 0.000 0.340 0.679 0.424 0.679 0.000 0.000 0.170 0.424 0.170 0.340 0.085 0.255 0.424 0.170 0.085 0.934 0.255 0.000 0.170 0.255 0.340 0.934 0.509 0.085 0.255 0.340 0.340 1.104 0.255 0.000 0.255 0.170 0.255 1.273 0.085 0.000 0.255 0.255 0.085 0.170 0.085 0.000 0.255 0.340 0.679 0.509 0.000 0.000 0.255 0.340 0.424 0.255 0.085 0.000 0.424 0.764 0.085 0.424 0.000 0.000 0.340 0.340 0.340 0.085 0.085 0.000 0.340 0.424 0.170 0.255 0.000 0.085 0.509 0.509 0.170 0.085 0.255 0.170 0.340 0.424 0.509 0.255 0.509 0.170 0.340 0.679 0.509 0.594 0.424 0.764 0.340 0.764 0.594 0.424 0.424 0.679 0.764 0.764 0.255 0.849 0.255 0.085 0.594 1.019 0.679 0.764 0.509 0.000 1.868 1.188 1.188 2.292 0.594 0.085 0.594 0.679 0.849 1.188 0.170 0.085 0.849 1.104 0.594 1.019 0.340 0.255 1.188 1.019 0.509 0.934 0.170 0.679 0.509 1.273 0.424 1.273 0.424 2.207 0.764 0.849 0.679 0.764 0.764 1.188 0.509 0.424 0.424 0.764 0.424 0.170 0.679 0.679 0.340 0.679 0.170 0.000 0.340 0.934 0.509 0.594 0.255 0.000 0.340 0.934 0.764 1.188 0.085 0.000 0.424 0.255 0.849 1.188 0.170 0.255 0.340 0.594 0.170 0.849 0.934 0.170 0.424 0.170 0.170 1.273 0.255 0.424 0.340 0.170 0.340 1.104 1.019 0.509 0.340 0.340 0.255 0.849 0.594 0.424"),
    ("MAPLEAF/Examples/Wind/WindroseYearlyMedecineHat.txt",
      Windrose.text "MEDICINE HAT     (CYXH)" "141058/3326/144384" "31 Dec 2006 - 30 Jan 2020" "All included" "30 Jan 2020 20:14" "4.16"
        "0.773 0.684 0.595 0.933 0.268 0.135 0.858 0.670 0.532 0.759 0.152 0.084 0.647 0.530 0.351 0.466 0.079 0.027 0.637 0.454 0.300 0.432 0.079 0.022 0.576 0.353 0.295 0.445 0.069 0.018 0.733 0.571 0.357 0.516 0.075 0.006 0.817 0.706 0.469 0.560 0.089 0.016 0.832 0.696 0.496 0.572 0.069 0.015 0.640 0.529 0.396 0.426 0.066 0.016 0.566 0.415 0.342 0.400 0.071 0.021 0.476 0.328 0.218 0.258 0.048 0.018 0.367 0.208 0.123 0.160 0.037 0.011 0.342 0.165 0.083 0.104 0.021 0.011 0.289 0.130 0.080 0.097 0.015 0.005 0.336 0.135 0.076 0.115 0.028 0.013 0.300 0.139 0.070 0.123 0.050 0.025 0.417 0.159 0.114 0.138 0.080 0.036 0.463 0.242 0.150 0.247 0.121 0.070 0.696 0.370 0.209 0.375 0.155 0.094 0.846 0.545 0.392 0.583 0.206 0.113 0.995 0.744 0.588 1.069 0.422 0.196 1.158 1.047 1.048 2.172 0.769 0.378 1.232 1.424 1.453 2.365 0.660 0.313 1.197 1.439 1.416 1.863 0.420 0.297 0.900 0.869 0.769 1.036 0.311 0.337 0.743 0.638 0.452 0.792 0.350 0.491 0.516 0.458 0.421 0.798 0.395 0.383 0.488 0.484 0.496 0.893 0.379 0.283 0.430 0.455 0.471 0.889 0.317 0.177 0.343 0.415 0.447 0.888 0.312 0.186 0.357 0.486 0.532 1.007 0.287 0.178 0.330 0.445 0.477 0.944 0.315 0.216 0.365 0.434 0.469 1.003 0.401 0.226 0.399 0.410 0.442 0.941 0.460 0.319 0.569 0.413 0.409 0.664 0.326 0.282 0.645 0.488 0.359 0.649 0.249 0.137"),
    ("MAPLEAF/Examples/Wind/WindroseYearlySchuler.txt",
      Windrose.text "SCHULER AGDM     (CXSC)" "112641/40/112681" "31 Dec 2006 - 30 Jan 2020" "All included" "30 Jan 2020 20:49" "5.5"
        "0.374 0.312 0.277 0.466 0.174 0.102 0.386 0.294 0.273 0.413 0.137 0.070 0.449 0.298 0.244 0.363 0.106 0.044 0.424 0.303 0.262 0.376 0.065 0.028 0.447 0.273 0.224 0.344 0.083 0.033 0.444 0.272 0.199 0.373 0.096 0.029 0.495 0.257 0.231 0.404 0.110 0.016 0.569 0.316 0.276 0.460 0.083 0.031 0.699 0.434 0.326 0.507 0.107 0.038 0.779 0.472 0.440 0.755 0.239 0.087 0.831 0.460 0.468 0.787 0.249 0.081 0.739 0.401 0.324 0.546 0.131 0.072 0.602 0.328 0.291 0.442 0.105 0.051 0.580 0.284 0.231 0.419 0.178 0.074 0.579 0.305 0.210 0.396 0.147 0.079 0.601 0.288 0.192 0.258 0.088 0.034 0.581 0.320 0.208 0.256 0.083 0.016 0.620 0.326 0.291 0.273 0.061 0.012 0.635 0.387 0.345 0.282 0.046 0.017 0.599 0.383 0.320 0.287 0.058 0.014 0.461 0.322 0.363 0.510 0.098 0.039 0.403 0.308 0.409 0.834 0.277 0.098 0.373 0.330 0.405 1.440 0.636 0.401 0.328 0.332 0.507 2.180 1.520 0.862 0.315 0.359 0.619 2.731 1.669 1.038 0.322 0.421 0.803 3.058 1.381 0.740 0.307 0.451 0.834 2.638 0.838 0.382 0.316 0.423 0.715 1.845 0.510 0.255 0.265 0.410 0.661 1.538 0.465 0.186 0.297 0.385 0.571 1.403 0.419 0.210 0.310 0.397 0.577 1.203 0.552 0.328 0.290 0.410 0.546 1.075 0.576 0.411 0.326 0.396 0.441 0.967 0.477 0.443 0.310 0.352 0.403 0.688 0.353 0.274 0.345 0.297 0.319 0.579 0.283 0.165 0.359 0.289 0.259 0.503 0.202 0.129"),
    ("MAPLEAF/Examples/Wind/WindroseYearlySuffield.txt",
      Windrose.text "SUFFIELD AIRPORT (CYSD)" "14288/0/14288" "2 Jan 2007 - 31 Mar 2015" "All included" "30 Jan 2020 20:43" "1.71"
        "0.175 0.203 0.217 0.539 0.308 0.315 0.287 0.203 0.154 0.476 0.357 0.224 0.252 0.343 0.168 0.413 0.301 0.147 0.308 0.343 0.210 0.406 0.147 0.042 0.252 0.224 0.168 0.273 0.147 0.056 0.196 0.217 0.245 0.455 0.196 0.021 0.238 0.224 0.322 0.630 0.245 0.056 0.252 0.266 0.301 0.441 0.112 0.028 0.231 0.336 0.483 0.875 0.259 0.084 0.434 0.287 0.448 0.490 0.133 0.028 0.350 0.511 0.665 1.057 0.266 0.119 0.371 0.644 0.686 0.931 0.168 0.084 0.483 0.693 0.581 0.679 0.098 0.070 0.371 0.350 0.329 0.259 0.028 0.000 0.273 0.483 0.322 0.294 0.070 0.042 0.329 0.399 0.301 0.329 0.084 0.063 0.308 0.385 0.350 0.329 0.245 0.028 0.378 0.427 0.350 0.532 0.273 0.252 0.252 0.399 0.378 0.532 0.378 0.322 0.336 0.518 0.476 0.945 0.371 0.231 0.532 0.497 0.504 1.344 0.553 0.182 0.756 0.728 0.763 1.470 0.693 0.280 0.378 0.455 0.553 1.064 0.392 0.308 0.581 0.714 0.679 0.966 0.301 0.357 0.707 0.826 0.707 1.085 0.378 0.658 0.511 0.700 0.658 1.071 0.623 1.008 0.693 0.875 0.882 1.372 0.798 0.917 0.623 0.609 0.588 0.812 0.427 0.350 0.553 0.609 0.546 0.903 0.329 0.266 0.490 0.553 0.574 0.840 0.252 0.175 0.490 0.630 0.602 1.295 0.497 0.252 0.329 0.392 0.525 1.092 0.441 0.329 0.427 0.427 0.441 1.106 0.714 0.504 0.497 0.483 0.413 1.400 0.784 0.861 0.287 0.385 0.343 1.036 0.707 0.602 0.378 0.329 0.301 0.966 0.504 0.546"),
    ("MAPLEAF/Examples/Wind/testWindProfile.txt",
      "Altitude WindX WindY WindZ\n2000 10 0 0\n6000 25 0 0\n7000 -5 -4 -2")
  ]

end Repository
end RocketSim
