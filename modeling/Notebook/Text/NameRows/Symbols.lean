/-! Names of characters, from U+2000 to U+FFFF, as Unicode 14 gives them.

The names stand in the order of their code points. A small letter opens a name: it counts the words
that the name shares with the one before, `a` for none. A sum after it says how far the code point is
from the one before; without a sum it is the next. -/

set_option autoImplicit false

namespace Notebook.Text.NameRows

def symbols : String := "
  a EN QUAD a EM QUAD a EN SPACE a EM SPACE a THREE-PER-EM SPACE a FOUR-PER-EM SPACE a SIX-PER-EM
  SPACE a FIGURE SPACE a PUNCTUATION SPACE a THIN SPACE a HAIR SPACE a ZERO WIDTH SPACE c
  NON-JOINER c JOINER a LEFT-TO-RIGHT MARK a RIGHT-TO-LEFT MARK a HYPHEN a NON-BREAKING HYPHEN a
  FIGURE DASH a EN DASH a EM DASH a HORIZONTAL BAR a DOUBLE VERTICAL LINE b LOW LINE a LEFT SINGLE
  QUOTATION MARK a RIGHT SINGLE QUOTATION MARK a SINGLE LOW-9 QUOTATION MARK b HIGH-REVERSED-9
  QUOTATION MARK a LEFT DOUBLE QUOTATION MARK a RIGHT DOUBLE QUOTATION MARK a DOUBLE LOW-9
  QUOTATION MARK b HIGH-REVERSED-9 QUOTATION MARK a DAGGER a DOUBLE DAGGER a BULLET a TRIANGULAR
  BULLET a ONE DOT LEADER a TWO DOT LEADER a HORIZONTAL ELLIPSIS a HYPHENATION POINT a LINE
  SEPARATOR a PARAGRAPH SEPARATOR a LEFT-TO-RIGHT EMBEDDING a RIGHT-TO-LEFT EMBEDDING a POP
  DIRECTIONAL FORMATTING a LEFT-TO-RIGHT OVERRIDE a RIGHT-TO-LEFT OVERRIDE a NARROW NO-BREAK SPACE
  a PER MILLE SIGN b TEN THOUSAND SIGN a PRIME a DOUBLE PRIME a TRIPLE PRIME a REVERSED PRIME b
  DOUBLE PRIME b TRIPLE PRIME a CARET a SINGLE LEFT-POINTING ANGLE QUOTATION MARK b RIGHT-POINTING
  ANGLE QUOTATION MARK a REFERENCE MARK a DOUBLE EXCLAMATION MARK a INTERROBANG a OVERLINE a
  UNDERTIE a CHARACTER TIE a CARET INSERTION POINT a ASTERISM a HYPHEN BULLET a FRACTION SLASH a
  LEFT SQUARE BRACKET WITH QUILL a RIGHT SQUARE BRACKET WITH QUILL a DOUBLE QUESTION MARK a
  QUESTION EXCLAMATION MARK a EXCLAMATION QUESTION MARK a TIRONIAN SIGN ET a REVERSED PILCROW SIGN
  a BLACK LEFTWARDS BULLET b RIGHTWARDS BULLET a LOW ASTERISK a REVERSED SEMICOLON a CLOSE UP a TWO
  ASTERISKS ALIGNED VERTICALLY a COMMERCIAL MINUS SIGN a SWUNG DASH a INVERTED UNDERTIE a FLOWER
  PUNCTUATION MARK a THREE DOT PUNCTUATION a QUADRUPLE PRIME a FOUR DOT PUNCTUATION a FIVE DOT
  PUNCTUATION a TWO DOT PUNCTUATION a FOUR DOT MARK a DOTTED CROSS a TRICOLON a VERTICAL FOUR DOTS
  a MEDIUM MATHEMATICAL SPACE a WORD JOINER a FUNCTION APPLICATION a INVISIBLE TIMES b SEPARATOR b
  PLUS a+2 LEFT-TO-RIGHT ISOLATE a RIGHT-TO-LEFT ISOLATE a FIRST STRONG ISOLATE a POP DIRECTIONAL
  ISOLATE a INHIBIT SYMMETRIC SWAPPING a ACTIVATE SYMMETRIC SWAPPING a INHIBIT ARABIC FORM SHAPING
  a ACTIVATE ARABIC FORM SHAPING a NATIONAL DIGIT SHAPES a NOMINAL DIGIT SHAPES a SUPERSCRIPT ZERO
  b LATIN SMALL LETTER I b+3 FOUR b FIVE b SIX b SEVEN b EIGHT b NINE b PLUS SIGN b MINUS b EQUALS
  SIGN b LEFT PARENTHESIS b RIGHT PARENTHESIS b LATIN SMALL LETTER N a SUBSCRIPT ZERO b ONE b TWO b
  THREE b FOUR b FIVE b SIX b SEVEN b EIGHT b NINE b PLUS SIGN b MINUS b EQUALS SIGN b LEFT
  PARENTHESIS b RIGHT PARENTHESIS a+2 LATIN SUBSCRIPT SMALL LETTER A e E e O e X e SCHWA e H e K e
  L e M e N e P e S e T a+4 EURO-CURRENCY SIGN a COLON SIGN a CRUZEIRO SIGN a FRENCH FRANC SIGN a
  LIRA SIGN a MILL SIGN a NAIRA SIGN a PESETA SIGN a RUPEE SIGN a WON SIGN a NEW SHEQEL SIGN a DONG
  SIGN a EURO SIGN a KIP SIGN a TUGRIK SIGN a DRACHMA SIGN a GERMAN PENNY SIGN a PESO SIGN a
  GUARANI SIGN a AUSTRAL SIGN a HRYVNIA SIGN a CEDI SIGN a LIVRE TOURNOIS SIGN a SPESMILO SIGN a
  TENGE SIGN a INDIAN RUPEE SIGN a TURKISH LIRA SIGN a NORDIC MARK SIGN a MANAT SIGN a RUBLE SIGN a
  LARI SIGN a BITCOIN SIGN a SOM SIGN a+10 COMBINING LEFT HARPOON ABOVE b RIGHT HARPOON ABOVE b
  LONG VERTICAL LINE OVERLAY b SHORT VERTICAL LINE OVERLAY b ANTICLOCKWISE ARROW ABOVE b CLOCKWISE
  ARROW ABOVE b LEFT ARROW ABOVE b RIGHT ARROW ABOVE b RING OVERLAY b CLOCKWISE RING OVERLAY b
  ANTICLOCKWISE RING OVERLAY b THREE DOTS ABOVE b FOUR DOTS ABOVE b ENCLOSING CIRCLE c SQUARE c
  DIAMOND c CIRCLE BACKSLASH b LEFT RIGHT ARROW ABOVE b ENCLOSING SCREEN c KEYCAP c UPWARD POINTING
  TRIANGLE b REVERSE SOLIDUS OVERLAY b DOUBLE VERTICAL STROKE OVERLAY b ANNUITY SYMBOL b TRIPLE
  UNDERDOT b WIDE BRIDGE ABOVE b LEFTWARDS ARROW OVERLAY b LONG DOUBLE SOLIDUS OVERLAY b RIGHTWARDS
  HARPOON WITH BARB DOWNWARDS b LEFTWARDS HARPOON WITH BARB DOWNWARDS b LEFT ARROW BELOW b RIGHT
  ARROW BELOW b ASTERISK ABOVE a+10 ACCOUNT OF a ADDRESSED TO THE SUBJECT a DOUBLE-STRUCK CAPITAL C
  a DEGREE CELSIUS a CENTRE LINE SYMBOL a CARE OF a CADA UNA a EULER CONSTANT a SCRUPLE a DEGREE
  FAHRENHEIT a SCRIPT SMALL G b CAPITAL H a BLACK-LETTER CAPITAL H a DOUBLE-STRUCK CAPITAL H a
  PLANCK CONSTANT c OVER TWO PI a SCRIPT CAPITAL I a BLACK-LETTER CAPITAL I a SCRIPT CAPITAL L b
  SMALL L a L B BAR SYMBOL a DOUBLE-STRUCK CAPITAL N a NUMERO SIGN a SOUND RECORDING COPYRIGHT a
  SCRIPT CAPITAL P a DOUBLE-STRUCK CAPITAL P c Q a SCRIPT CAPITAL R a BLACK-LETTER CAPITAL R a
  DOUBLE-STRUCK CAPITAL R a PRESCRIPTION TAKE a RESPONSE a SERVICE MARK a TELEPHONE SIGN a TRADE
  MARK SIGN a VERSICLE a DOUBLE-STRUCK CAPITAL Z a OUNCE SIGN a OHM SIGN a INVERTED OHM SIGN a
  BLACK-LETTER CAPITAL Z a TURNED GREEK SMALL LETTER IOTA a KELVIN SIGN a ANGSTROM SIGN a SCRIPT
  CAPITAL B a BLACK-LETTER CAPITAL C a ESTIMATED SYMBOL a SCRIPT SMALL E b CAPITAL E c F a TURNED
  CAPITAL F a SCRIPT CAPITAL M b SMALL O a ALEF SYMBOL a BET SYMBOL a GIMEL SYMBOL a DALET SYMBOL a
  INFORMATION SOURCE a ROTATED CAPITAL Q a FACSIMILE SIGN a DOUBLE-STRUCK SMALL PI c GAMMA b
  CAPITAL GAMMA c PI b N-ARY SUMMATION a TURNED SANS-SERIF CAPITAL G d L a REVERSED SANS-SERIF
  CAPITAL L a TURNED SANS-SERIF CAPITAL Y a DOUBLE-STRUCK ITALIC CAPITAL D c SMALL D d E d I d J a
  PROPERTY LINE a TURNED AMPERSAND a PER SIGN a AKTIESELSKAB a TURNED SMALL F a SYMBOL FOR
  SAMARITAN SOURCE a VULGAR FRACTION ONE SEVENTH d NINTH d TENTH d THIRD c TWO THIRDS c ONE FIFTH c
  TWO FIFTHS c THREE FIFTHS c FOUR FIFTHS c ONE SIXTH c FIVE SIXTHS c ONE EIGHTH c THREE EIGHTHS c
  FIVE EIGHTHS c SEVEN EIGHTHS a FRACTION NUMERATOR ONE a ROMAN NUMERAL ONE c TWO c THREE c FOUR c
  FIVE c SIX c SEVEN c EIGHT c NINE c TEN c ELEVEN c TWELVE c FIFTY c ONE HUNDRED c FIVE HUNDRED c
  ONE THOUSAND a SMALL ROMAN NUMERAL ONE d TWO d THREE d FOUR d FIVE d SIX d SEVEN d EIGHT d NINE d
  TEN d ELEVEN d TWELVE d FIFTY d ONE HUNDRED d FIVE HUNDRED d ONE THOUSAND a ROMAN NUMERAL ONE
  THOUSAND C D c FIVE THOUSAND c TEN THOUSAND c REVERSED ONE HUNDRED a LATIN SMALL LETTER REVERSED
  C a ROMAN NUMERAL SIX LATE FORM c FIFTY EARLY FORM d THOUSAND c ONE HUNDRED THOUSAND a VULGAR
  FRACTION ZERO THIRDS a TURNED DIGIT TWO c THREE a+5 LEFTWARDS ARROW a UPWARDS ARROW a RIGHTWARDS
  ARROW a DOWNWARDS ARROW a LEFT RIGHT ARROW a UP DOWN ARROW a NORTH WEST ARROW b EAST ARROW a
  SOUTH EAST ARROW b WEST ARROW a LEFTWARDS ARROW WITH STROKE a RIGHTWARDS ARROW WITH STROKE a
  LEFTWARDS WAVE ARROW a RIGHTWARDS WAVE ARROW a LEFTWARDS TWO HEADED ARROW a UPWARDS TWO HEADED
  ARROW a RIGHTWARDS TWO HEADED ARROW a DOWNWARDS TWO HEADED ARROW a LEFTWARDS ARROW WITH TAIL a
  RIGHTWARDS ARROW WITH TAIL a LEFTWARDS ARROW FROM BAR a UPWARDS ARROW FROM BAR a RIGHTWARDS ARROW
  FROM BAR a DOWNWARDS ARROW FROM BAR a UP DOWN ARROW WITH BASE a LEFTWARDS ARROW WITH HOOK a
  RIGHTWARDS ARROW WITH HOOK a LEFTWARDS ARROW WITH LOOP a RIGHTWARDS ARROW WITH LOOP a LEFT RIGHT
  WAVE ARROW c ARROW WITH STROKE a DOWNWARDS ZIGZAG ARROW a UPWARDS ARROW WITH TIP LEFTWARDS e
  RIGHTWARDS a DOWNWARDS ARROW WITH TIP LEFTWARDS e RIGHTWARDS a RIGHTWARDS ARROW WITH CORNER
  DOWNWARDS a DOWNWARDS ARROW WITH CORNER LEFTWARDS a ANTICLOCKWISE TOP SEMICIRCLE ARROW a
  CLOCKWISE TOP SEMICIRCLE ARROW a NORTH WEST ARROW TO LONG BAR a LEFTWARDS ARROW TO BAR OVER
  RIGHTWARDS ARROW TO BAR a ANTICLOCKWISE OPEN CIRCLE ARROW a CLOCKWISE OPEN CIRCLE ARROW a
  LEFTWARDS HARPOON WITH BARB UPWARDS e DOWNWARDS a UPWARDS HARPOON WITH BARB RIGHTWARDS e
  LEFTWARDS a RIGHTWARDS HARPOON WITH BARB UPWARDS e DOWNWARDS a DOWNWARDS HARPOON WITH BARB
  RIGHTWARDS e LEFTWARDS a RIGHTWARDS ARROW OVER LEFTWARDS ARROW a UPWARDS ARROW LEFTWARDS OF
  DOWNWARDS ARROW a LEFTWARDS ARROW OVER RIGHTWARDS ARROW b PAIRED ARROWS a UPWARDS PAIRED ARROWS a
  RIGHTWARDS PAIRED ARROWS a DOWNWARDS PAIRED ARROWS a LEFTWARDS HARPOON OVER RIGHTWARDS HARPOON a
  RIGHTWARDS HARPOON OVER LEFTWARDS HARPOON a LEFTWARDS DOUBLE ARROW WITH STROKE a LEFT RIGHT
  DOUBLE ARROW WITH STROKE a RIGHTWARDS DOUBLE ARROW WITH STROKE a LEFTWARDS DOUBLE ARROW a UPWARDS
  DOUBLE ARROW a RIGHTWARDS DOUBLE ARROW a DOWNWARDS DOUBLE ARROW a LEFT RIGHT DOUBLE ARROW a UP
  DOWN DOUBLE ARROW a NORTH WEST DOUBLE ARROW b EAST DOUBLE ARROW a SOUTH EAST DOUBLE ARROW b WEST
  DOUBLE ARROW a LEFTWARDS TRIPLE ARROW a RIGHTWARDS TRIPLE ARROW a LEFTWARDS SQUIGGLE ARROW a
  RIGHTWARDS SQUIGGLE ARROW a UPWARDS ARROW WITH DOUBLE STROKE a DOWNWARDS ARROW WITH DOUBLE STROKE
  a LEFTWARDS DASHED ARROW a UPWARDS DASHED ARROW a RIGHTWARDS DASHED ARROW a DOWNWARDS DASHED
  ARROW a LEFTWARDS ARROW TO BAR a RIGHTWARDS ARROW TO BAR a LEFTWARDS WHITE ARROW a UPWARDS WHITE
  ARROW a RIGHTWARDS WHITE ARROW a DOWNWARDS WHITE ARROW a UPWARDS WHITE ARROW FROM BAR d ON
  PEDESTAL f WITH HORIZONTAL BAR g VERTICAL BAR c DOUBLE ARROW e ON PEDESTAL a RIGHTWARDS WHITE
  ARROW FROM WALL a NORTH WEST ARROW TO CORNER a SOUTH EAST ARROW TO CORNER a UP DOWN WHITE ARROW a
  RIGHT ARROW WITH SMALL CIRCLE a DOWNWARDS ARROW LEFTWARDS OF UPWARDS ARROW a THREE RIGHTWARDS
  ARROWS a LEFTWARDS ARROW WITH VERTICAL STROKE a RIGHTWARDS ARROW WITH VERTICAL STROKE a LEFT
  RIGHT ARROW WITH VERTICAL STROKE a LEFTWARDS ARROW WITH DOUBLE VERTICAL STROKE a RIGHTWARDS ARROW
  WITH DOUBLE VERTICAL STROKE a LEFT RIGHT ARROW WITH DOUBLE VERTICAL STROKE a LEFTWARDS
  OPEN-HEADED ARROW a RIGHTWARDS OPEN-HEADED ARROW a LEFT RIGHT OPEN-HEADED ARROW a FOR ALL a
  COMPLEMENT a PARTIAL DIFFERENTIAL a THERE EXISTS b DOES NOT EXIST a EMPTY SET a INCREMENT a NABLA
  a ELEMENT OF a NOT AN ELEMENT OF a SMALL ELEMENT OF a CONTAINS AS MEMBER a DOES NOT CONTAIN AS
  MEMBER a SMALL CONTAINS AS MEMBER a END OF PROOF a N-ARY PRODUCT b COPRODUCT b SUMMATION a MINUS
  SIGN a MINUS-OR-PLUS SIGN a DOT PLUS a DIVISION SLASH a SET MINUS a ASTERISK OPERATOR a RING
  OPERATOR a BULLET OPERATOR a SQUARE ROOT a CUBE ROOT a FOURTH ROOT a PROPORTIONAL TO a INFINITY a
  RIGHT ANGLE a ANGLE a MEASURED ANGLE a SPHERICAL ANGLE a DIVIDES a DOES NOT DIVIDE a PARALLEL TO
  a NOT PARALLEL TO a LOGICAL AND b OR a INTERSECTION a UNION a INTEGRAL a DOUBLE INTEGRAL a TRIPLE
  INTEGRAL a CONTOUR INTEGRAL a SURFACE INTEGRAL a VOLUME INTEGRAL a CLOCKWISE INTEGRAL b CONTOUR
  INTEGRAL a ANTICLOCKWISE CONTOUR INTEGRAL a THEREFORE a BECAUSE a RATIO a PROPORTION a DOT MINUS
  a EXCESS a GEOMETRIC PROPORTION a HOMOTHETIC a TILDE OPERATOR a REVERSED TILDE a INVERTED LAZY S
  a SINE WAVE a WREATH PRODUCT a NOT TILDE a MINUS TILDE a ASYMPTOTICALLY EQUAL TO a NOT
  ASYMPTOTICALLY EQUAL TO a APPROXIMATELY EQUAL TO b BUT NOT ACTUALLY EQUAL TO a NEITHER
  APPROXIMATELY NOR ACTUALLY EQUAL TO a ALMOST EQUAL TO a NOT ALMOST EQUAL TO a ALMOST EQUAL OR
  EQUAL TO a TRIPLE TILDE a ALL EQUAL TO a EQUIVALENT TO a GEOMETRICALLY EQUIVALENT TO a DIFFERENCE
  BETWEEN a APPROACHES THE LIMIT a GEOMETRICALLY EQUAL TO a APPROXIMATELY EQUAL TO OR THE IMAGE OF
  a IMAGE OF OR APPROXIMATELY EQUAL TO a COLON EQUALS a EQUALS COLON a RING IN EQUAL TO b EQUAL TO
  a CORRESPONDS TO a ESTIMATES a EQUIANGULAR TO a STAR EQUALS a DELTA EQUAL TO a EQUAL TO BY
  DEFINITION a MEASURED BY a QUESTIONED EQUAL TO a NOT EQUAL TO a IDENTICAL TO a NOT IDENTICAL TO a
  STRICTLY EQUIVALENT TO a LESS-THAN OR EQUAL TO a GREATER-THAN OR EQUAL TO a LESS-THAN OVER EQUAL
  TO a GREATER-THAN OVER EQUAL TO a LESS-THAN BUT NOT EQUAL TO a GREATER-THAN BUT NOT EQUAL TO a
  MUCH LESS-THAN b GREATER-THAN a BETWEEN a NOT EQUIVALENT TO b LESS-THAN b GREATER-THAN a NEITHER
  LESS-THAN NOR EQUAL TO b GREATER-THAN NOR EQUAL TO a LESS-THAN OR EQUIVALENT TO a GREATER-THAN OR
  EQUIVALENT TO a NEITHER LESS-THAN NOR EQUIVALENT TO b GREATER-THAN NOR EQUIVALENT TO a LESS-THAN
  OR GREATER-THAN a GREATER-THAN OR LESS-THAN a NEITHER LESS-THAN NOR GREATER-THAN b GREATER-THAN
  NOR LESS-THAN a PRECEDES a SUCCEEDS a PRECEDES OR EQUAL TO a SUCCEEDS OR EQUAL TO a PRECEDES OR
  EQUIVALENT TO a SUCCEEDS OR EQUIVALENT TO a DOES NOT PRECEDE c SUCCEED a SUBSET OF a SUPERSET OF
  a NOT A SUBSET OF c SUPERSET OF a SUBSET OF OR EQUAL TO a SUPERSET OF OR EQUAL TO a NEITHER A
  SUBSET OF NOR EQUAL TO c SUPERSET OF NOR EQUAL TO a SUBSET OF WITH NOT EQUAL TO a SUPERSET OF
  WITH NOT EQUAL TO a MULTISET b MULTIPLICATION b UNION a SQUARE IMAGE OF b ORIGINAL OF b IMAGE OF
  OR EQUAL TO b ORIGINAL OF OR EQUAL TO b CAP b CUP a CIRCLED PLUS b MINUS b TIMES b DIVISION SLASH
  b DOT OPERATOR b RING OPERATOR b ASTERISK OPERATOR b EQUALS b DASH a SQUARED PLUS b MINUS b TIMES
  b DOT OPERATOR a RIGHT TACK a LEFT TACK a DOWN TACK a UP TACK a ASSERTION a MODELS a TRUE a
  FORCES a TRIPLE VERTICAL BAR RIGHT TURNSTILE a DOUBLE VERTICAL BAR DOUBLE RIGHT TURNSTILE a DOES
  NOT PROVE a NOT TRUE a DOES NOT FORCE a NEGATED DOUBLE VERTICAL BAR DOUBLE RIGHT TURNSTILE a
  PRECEDES UNDER RELATION a SUCCEEDS UNDER RELATION a NORMAL SUBGROUP OF a CONTAINS AS NORMAL
  SUBGROUP a NORMAL SUBGROUP OF OR EQUAL TO a CONTAINS AS NORMAL SUBGROUP OR EQUAL TO a ORIGINAL OF
  a IMAGE OF a MULTIMAP a HERMITIAN CONJUGATE MATRIX a INTERCALATE a XOR a NAND a NOR a RIGHT ANGLE
  WITH ARC b TRIANGLE a N-ARY LOGICAL AND c OR b INTERSECTION b UNION a DIAMOND OPERATOR a DOT
  OPERATOR a STAR OPERATOR a DIVISION TIMES a BOWTIE a LEFT NORMAL FACTOR SEMIDIRECT PRODUCT a
  RIGHT NORMAL FACTOR SEMIDIRECT PRODUCT a LEFT SEMIDIRECT PRODUCT a RIGHT SEMIDIRECT PRODUCT a
  REVERSED TILDE EQUALS a CURLY LOGICAL OR c AND a DOUBLE SUBSET b SUPERSET b INTERSECTION b UNION
  a PITCHFORK a EQUAL AND PARALLEL TO a LESS-THAN WITH DOT a GREATER-THAN WITH DOT a VERY MUCH
  LESS-THAN c GREATER-THAN a LESS-THAN EQUAL TO OR GREATER-THAN a GREATER-THAN EQUAL TO OR
  LESS-THAN a EQUAL TO OR LESS-THAN d GREATER-THAN d PRECEDES d SUCCEEDS a DOES NOT PRECEDE OR
  EQUAL c SUCCEED OR EQUAL a NOT SQUARE IMAGE OF OR EQUAL TO c ORIGINAL OF OR EQUAL TO a SQUARE
  IMAGE OF OR NOT EQUAL TO b ORIGINAL OF OR NOT EQUAL TO a LESS-THAN BUT NOT EQUIVALENT TO a
  GREATER-THAN BUT NOT EQUIVALENT TO a PRECEDES BUT NOT EQUIVALENT TO a SUCCEEDS BUT NOT EQUIVALENT
  TO a NOT NORMAL SUBGROUP OF a DOES NOT CONTAIN AS NORMAL SUBGROUP a NOT NORMAL SUBGROUP OF OR
  EQUAL TO a DOES NOT CONTAIN AS NORMAL SUBGROUP OR EQUAL a VERTICAL ELLIPSIS a MIDLINE HORIZONTAL
  ELLIPSIS a UP RIGHT DIAGONAL ELLIPSIS a DOWN RIGHT DIAGONAL ELLIPSIS a ELEMENT OF WITH LONG
  HORIZONTAL STROKE d VERTICAL BAR AT END OF HORIZONTAL STROKE a SMALL ELEMENT OF WITH VERTICAL BAR
  AT END OF HORIZONTAL STROKE a ELEMENT OF WITH DOT ABOVE d OVERBAR a SMALL ELEMENT OF WITH OVERBAR
  a ELEMENT OF WITH UNDERBAR d TWO HORIZONTAL STROKES a CONTAINS WITH LONG HORIZONTAL STROKE c
  VERTICAL BAR AT END OF HORIZONTAL STROKE a SMALL CONTAINS WITH VERTICAL BAR AT END OF HORIZONTAL
  STROKE a CONTAINS WITH OVERBAR a SMALL CONTAINS WITH OVERBAR a Z NOTATION BAG MEMBERSHIP a
  DIAMETER SIGN a ELECTRIC ARROW a HOUSE a UP ARROWHEAD a DOWN ARROWHEAD a PROJECTIVE a PERSPECTIVE
  a WAVY LINE a LEFT CEILING a RIGHT CEILING a LEFT FLOOR a RIGHT FLOOR a BOTTOM RIGHT CROP b LEFT
  CROP a TOP RIGHT CROP b LEFT CROP a REVERSED NOT SIGN a SQUARE LOZENGE a ARC a SEGMENT a SECTOR a
  TELEPHONE RECORDER a POSITION INDICATOR a VIEWDATA SQUARE a PLACE OF INTEREST SIGN a TURNED NOT
  SIGN a WATCH a HOURGLASS a TOP LEFT CORNER b RIGHT CORNER a BOTTOM LEFT CORNER b RIGHT CORNER a
  TOP HALF INTEGRAL a BOTTOM HALF INTEGRAL a FROWN a SMILE a UP ARROWHEAD BETWEEN TWO HORIZONTAL
  BARS a OPTION KEY a ERASE TO THE RIGHT a X IN A RECTANGLE BOX a KEYBOARD a LEFT-POINTING ANGLE
  BRACKET a RIGHT-POINTING ANGLE BRACKET a ERASE TO THE LEFT a BENZENE RING a CYLINDRICITY a ALL
  AROUND-PROFILE a SYMMETRY a TOTAL RUNOUT a DIMENSION ORIGIN a CONICAL TAPER a SLOPE a COUNTERBORE
  a COUNTERSINK a APL FUNCTIONAL SYMBOL I-BEAM d SQUISH QUAD d QUAD EQUAL e DIVIDE e DIAMOND e JOT
  e CIRCLE d CIRCLE STILE e JOT d SLASH BAR d BACKSLASH BAR d QUAD SLASH e BACKSLASH e LESS-THAN e
  GREATER-THAN d LEFTWARDS VANE d RIGHTWARDS VANE d QUAD LEFTWARDS ARROW e RIGHTWARDS ARROW d
  CIRCLE BACKSLASH d DOWN TACK UNDERBAR d DELTA STILE d QUAD DOWN CARET e DELTA d DOWN TACK JOT d
  UPWARDS VANE d QUAD UPWARDS ARROW d UP TACK OVERBAR d DEL STILE d QUAD UP CARET e DEL d UP TACK
  JOT d DOWNWARDS VANE d QUAD DOWNWARDS ARROW d QUOTE UNDERBAR d DELTA UNDERBAR d DIAMOND UNDERBAR
  d JOT UNDERBAR d CIRCLE UNDERBAR d UP SHOE JOT d QUOTE QUAD d CIRCLE STAR d QUAD COLON d UP TACK
  DIAERESIS d DEL DIAERESIS d STAR DIAERESIS d JOT DIAERESIS d CIRCLE DIAERESIS d DOWN SHOE STILE d
  LEFT SHOE STILE d TILDE DIAERESIS d GREATER-THAN DIAERESIS d COMMA BAR d DEL TILDE d ZILDE d
  STILE TILDE d SEMICOLON UNDERBAR d QUAD NOT EQUAL e QUESTION d DOWN CARET TILDE d UP CARET TILDE
  d IOTA d RHO d OMEGA d ALPHA UNDERBAR d EPSILON UNDERBAR d IOTA UNDERBAR d OMEGA UNDERBAR d ALPHA
  a NOT CHECK MARK a RIGHT ANGLE WITH DOWNWARDS ZIGZAG ARROW a SHOULDERED OPEN BOX a BELL SYMBOL a
  VERTICAL LINE WITH MIDDLE DOT a INSERTION SYMBOL a CONTINUOUS UNDERLINE SYMBOL a DISCONTINUOUS
  UNDERLINE SYMBOL a EMPHASIS SYMBOL a COMPOSITION SYMBOL a WHITE SQUARE WITH CENTRE VERTICAL LINE
  a ENTER SYMBOL a ALTERNATIVE KEY SYMBOL a HELM SYMBOL a CIRCLED HORIZONTAL BAR WITH NOTCH b
  TRIANGLE DOWN a BROKEN CIRCLE WITH NORTHWEST ARROW a UNDO SYMBOL a MONOSTABLE SYMBOL a HYSTERESIS
  SYMBOL a OPEN-CIRCUIT-OUTPUT H-TYPE SYMBOL b L-TYPE SYMBOL a PASSIVE-PULL-DOWN-OUTPUT SYMBOL a
  PASSIVE-PULL-UP-OUTPUT SYMBOL a DIRECT CURRENT SYMBOL FORM TWO a SOFTWARE-FUNCTION SYMBOL a APL
  FUNCTIONAL SYMBOL QUAD a DECIMAL SEPARATOR KEY SYMBOL a PREVIOUS PAGE a NEXT PAGE a PRINT SCREEN
  SYMBOL a CLEAR SCREEN SYMBOL a LEFT PARENTHESIS UPPER HOOK c EXTENSION c LOWER HOOK a RIGHT
  PARENTHESIS UPPER HOOK c EXTENSION c LOWER HOOK a LEFT SQUARE BRACKET UPPER CORNER d EXTENSION d
  LOWER CORNER a RIGHT SQUARE BRACKET UPPER CORNER d EXTENSION d LOWER CORNER a LEFT CURLY BRACKET
  UPPER HOOK d MIDDLE PIECE d LOWER HOOK a CURLY BRACKET EXTENSION a RIGHT CURLY BRACKET UPPER HOOK
  d MIDDLE PIECE d LOWER HOOK a INTEGRAL EXTENSION a HORIZONTAL LINE EXTENSION a UPPER LEFT OR
  LOWER RIGHT CURLY BRACKET SECTION b RIGHT OR LOWER LEFT CURLY BRACKET SECTION a SUMMATION TOP b
  BOTTOM a TOP SQUARE BRACKET a BOTTOM SQUARE BRACKET d OVER TOP SQUARE BRACKET a RADICAL SYMBOL
  BOTTOM a LEFT VERTICAL BOX LINE a RIGHT VERTICAL BOX LINE a HORIZONTAL SCAN LINE-1 c LINE-3 c
  LINE-7 c LINE-9 a DENTISTRY SYMBOL LIGHT VERTICAL AND TOP RIGHT f BOTTOM RIGHT e WITH CIRCLE d
  DOWN AND HORIZONTAL WITH CIRCLE d UP AND HORIZONTAL WITH CIRCLE d VERTICAL WITH TRIANGLE d DOWN
  AND HORIZONTAL WITH TRIANGLE d UP AND HORIZONTAL WITH TRIANGLE d VERTICAL AND WAVE d DOWN AND
  HORIZONTAL WITH WAVE d UP AND HORIZONTAL WITH WAVE d DOWN AND HORIZONTAL d UP AND HORIZONTAL d
  VERTICAL AND TOP LEFT f BOTTOM LEFT a SQUARE FOOT a RETURN SYMBOL a EJECT SYMBOL a VERTICAL LINE
  EXTENSION a METRICAL BREVE b LONG OVER SHORT b SHORT OVER LONG b LONG OVER TWO SHORTS b TWO
  SHORTS OVER LONG d JOINED b TRISEME b TETRASEME b PENTASEME a EARTH GROUND a FUSE a TOP
  PARENTHESIS a BOTTOM PARENTHESIS a TOP CURLY BRACKET a BOTTOM CURLY BRACKET a TOP TORTOISE SHELL
  BRACKET a BOTTOM TORTOISE SHELL BRACKET a WHITE TRAPEZIUM a BENZENE RING WITH CIRCLE a
  STRAIGHTNESS a FLATNESS a AC CURRENT a ELECTRICAL INTERSECTION a DECIMAL EXPONENT SYMBOL a BLACK
  RIGHT-POINTING DOUBLE TRIANGLE b LEFT-POINTING DOUBLE TRIANGLE b UP-POINTING DOUBLE TRIANGLE b
  DOWN-POINTING DOUBLE TRIANGLE b RIGHT-POINTING DOUBLE TRIANGLE WITH VERTICAL BAR b LEFT-POINTING
  DOUBLE TRIANGLE WITH VERTICAL BAR b RIGHT-POINTING TRIANGLE WITH DOUBLE VERTICAL BAR a ALARM
  CLOCK a STOPWATCH a TIMER CLOCK a HOURGLASS WITH FLOWING SAND a BLACK MEDIUM LEFT-POINTING
  TRIANGLE c RIGHT-POINTING TRIANGLE c UP-POINTING TRIANGLE c DOWN-POINTING TRIANGLE a DOUBLE
  VERTICAL BAR a BLACK SQUARE FOR STOP b CIRCLE FOR RECORD a POWER SYMBOL b ON-OFF SYMBOL b ON
  SYMBOL b SLEEP SYMBOL a OBSERVER EYE SYMBOL a SYMBOL FOR NULL c START OF HEADING e TEXT c END OF
  TEXT e TRANSMISSION c ENQUIRY c ACKNOWLEDGE c BELL c BACKSPACE c HORIZONTAL TABULATION c LINE
  FEED c VERTICAL TABULATION c FORM FEED c CARRIAGE RETURN c SHIFT OUT d IN c DATA LINK ESCAPE c
  DEVICE CONTROL ONE e TWO e THREE e FOUR c NEGATIVE ACKNOWLEDGE c SYNCHRONOUS IDLE c END OF
  TRANSMISSION BLOCK c CANCEL c END OF MEDIUM c SUBSTITUTE c ESCAPE c FILE SEPARATOR c GROUP
  SEPARATOR c RECORD SEPARATOR c UNIT SEPARATOR c SPACE c DELETE a BLANK SYMBOL a OPEN BOX a SYMBOL
  FOR NEWLINE c DELETE FORM TWO c SUBSTITUTE FORM TWO a+1a OCR HOOK b CHAIR b FORK b INVERTED FORK
  b BELT BUCKLE b BOW TIE b BRANCH BANK IDENTIFICATION b AMOUNT OF CHECK b DASH b CUSTOMER ACCOUNT
  NUMBER b DOUBLE BACKSLASH a+16 CIRCLED DIGIT ONE c TWO c THREE c FOUR c FIVE c SIX c SEVEN c
  EIGHT c NINE b NUMBER TEN c ELEVEN c TWELVE c THIRTEEN c FOURTEEN c FIFTEEN c SIXTEEN c SEVENTEEN
  c EIGHTEEN c NINETEEN c TWENTY a PARENTHESIZED DIGIT ONE c TWO c THREE c FOUR c FIVE c SIX c
  SEVEN c EIGHT c NINE b NUMBER TEN c ELEVEN c TWELVE c THIRTEEN c FOURTEEN c FIFTEEN c SIXTEEN c
  SEVENTEEN c EIGHTEEN c NINETEEN c TWENTY a DIGIT ONE FULL STOP b TWO FULL STOP b THREE FULL STOP
  b FOUR FULL STOP b FIVE FULL STOP b SIX FULL STOP b SEVEN FULL STOP b EIGHT FULL STOP b NINE FULL
  STOP a NUMBER TEN FULL STOP b ELEVEN FULL STOP b TWELVE FULL STOP b THIRTEEN FULL STOP b FOURTEEN
  FULL STOP b FIFTEEN FULL STOP b SIXTEEN FULL STOP b SEVENTEEN FULL STOP b EIGHTEEN FULL STOP b
  NINETEEN FULL STOP b TWENTY FULL STOP a PARENTHESIZED LATIN SMALL LETTER A e B e C e D e E e F e
  G e H e I e J e K e L e M e N e O e P e Q e R e S e T e U e V e W e X e Y e Z a CIRCLED LATIN
  CAPITAL LETTER A e B e C e D e E e F e G e H e I e J e K e L e M e N e O e P e Q e R e S e T e U
  e V e W e X e Y e Z c SMALL LETTER A e B e C e D e E e F e G e H e I e J e K e L e M e N e O e P
  e Q e R e S e T e U e V e W e X e Y e Z b DIGIT ZERO a NEGATIVE CIRCLED NUMBER ELEVEN d TWELVE d
  THIRTEEN d FOURTEEN d FIFTEEN d SIXTEEN d SEVENTEEN d EIGHTEEN d NINETEEN d TWENTY a DOUBLE
  CIRCLED DIGIT ONE d TWO d THREE d FOUR d FIVE d SIX d SEVEN d EIGHT d NINE c NUMBER TEN a
  NEGATIVE CIRCLED DIGIT ZERO a BOX DRAWINGS LIGHT HORIZONTAL c HEAVY HORIZONTAL c LIGHT VERTICAL c
  HEAVY VERTICAL c LIGHT TRIPLE DASH HORIZONTAL c HEAVY TRIPLE DASH HORIZONTAL c LIGHT TRIPLE DASH
  VERTICAL c HEAVY TRIPLE DASH VERTICAL c LIGHT QUADRUPLE DASH HORIZONTAL c HEAVY QUADRUPLE DASH
  HORIZONTAL c LIGHT QUADRUPLE DASH VERTICAL c HEAVY QUADRUPLE DASH VERTICAL c LIGHT DOWN AND RIGHT
  c DOWN LIGHT AND RIGHT HEAVY d HEAVY AND RIGHT LIGHT c HEAVY DOWN AND RIGHT c LIGHT DOWN AND LEFT
  c DOWN LIGHT AND LEFT HEAVY d HEAVY AND LEFT LIGHT c HEAVY DOWN AND LEFT c LIGHT UP AND RIGHT c
  UP LIGHT AND RIGHT HEAVY d HEAVY AND RIGHT LIGHT c HEAVY UP AND RIGHT c LIGHT UP AND LEFT c UP
  LIGHT AND LEFT HEAVY d HEAVY AND LEFT LIGHT c HEAVY UP AND LEFT c LIGHT VERTICAL AND RIGHT c
  VERTICAL LIGHT AND RIGHT HEAVY c UP HEAVY AND RIGHT DOWN LIGHT c DOWN HEAVY AND RIGHT UP LIGHT c
  VERTICAL HEAVY AND RIGHT LIGHT c DOWN LIGHT AND RIGHT UP HEAVY c UP LIGHT AND RIGHT DOWN HEAVY c
  HEAVY VERTICAL AND RIGHT c LIGHT VERTICAL AND LEFT c VERTICAL LIGHT AND LEFT HEAVY c UP HEAVY AND
  LEFT DOWN LIGHT c DOWN HEAVY AND LEFT UP LIGHT c VERTICAL HEAVY AND LEFT LIGHT c DOWN LIGHT AND
  LEFT UP HEAVY c UP LIGHT AND LEFT DOWN HEAVY c HEAVY VERTICAL AND LEFT c LIGHT DOWN AND
  HORIZONTAL c LEFT HEAVY AND RIGHT DOWN LIGHT c RIGHT HEAVY AND LEFT DOWN LIGHT c DOWN LIGHT AND
  HORIZONTAL HEAVY d HEAVY AND HORIZONTAL LIGHT c RIGHT LIGHT AND LEFT DOWN HEAVY c LEFT LIGHT AND
  RIGHT DOWN HEAVY c HEAVY DOWN AND HORIZONTAL c LIGHT UP AND HORIZONTAL c LEFT HEAVY AND RIGHT UP
  LIGHT c RIGHT HEAVY AND LEFT UP LIGHT c UP LIGHT AND HORIZONTAL HEAVY d HEAVY AND HORIZONTAL
  LIGHT c RIGHT LIGHT AND LEFT UP HEAVY c LEFT LIGHT AND RIGHT UP HEAVY c HEAVY UP AND HORIZONTAL c
  LIGHT VERTICAL AND HORIZONTAL c LEFT HEAVY AND RIGHT VERTICAL LIGHT c RIGHT HEAVY AND LEFT
  VERTICAL LIGHT c VERTICAL LIGHT AND HORIZONTAL HEAVY c UP HEAVY AND DOWN HORIZONTAL LIGHT c DOWN
  HEAVY AND UP HORIZONTAL LIGHT c VERTICAL HEAVY AND HORIZONTAL LIGHT c LEFT UP HEAVY AND RIGHT
  DOWN LIGHT c RIGHT UP HEAVY AND LEFT DOWN LIGHT c LEFT DOWN HEAVY AND RIGHT UP LIGHT c RIGHT DOWN
  HEAVY AND LEFT UP LIGHT c DOWN LIGHT AND UP HORIZONTAL HEAVY c UP LIGHT AND DOWN HORIZONTAL HEAVY
  c RIGHT LIGHT AND LEFT VERTICAL HEAVY c LEFT LIGHT AND RIGHT VERTICAL HEAVY c HEAVY VERTICAL AND
  HORIZONTAL c LIGHT DOUBLE DASH HORIZONTAL c HEAVY DOUBLE DASH HORIZONTAL c LIGHT DOUBLE DASH
  VERTICAL c HEAVY DOUBLE DASH VERTICAL c DOUBLE HORIZONTAL d VERTICAL c DOWN SINGLE AND RIGHT
  DOUBLE d DOUBLE AND RIGHT SINGLE c DOUBLE DOWN AND RIGHT c DOWN SINGLE AND LEFT DOUBLE d DOUBLE
  AND LEFT SINGLE c DOUBLE DOWN AND LEFT c UP SINGLE AND RIGHT DOUBLE d DOUBLE AND RIGHT SINGLE c
  DOUBLE UP AND RIGHT c UP SINGLE AND LEFT DOUBLE d DOUBLE AND LEFT SINGLE c DOUBLE UP AND LEFT c
  VERTICAL SINGLE AND RIGHT DOUBLE d DOUBLE AND RIGHT SINGLE c DOUBLE VERTICAL AND RIGHT c VERTICAL
  SINGLE AND LEFT DOUBLE d DOUBLE AND LEFT SINGLE c DOUBLE VERTICAL AND LEFT c DOWN SINGLE AND
  HORIZONTAL DOUBLE d DOUBLE AND HORIZONTAL SINGLE c DOUBLE DOWN AND HORIZONTAL c UP SINGLE AND
  HORIZONTAL DOUBLE d DOUBLE AND HORIZONTAL SINGLE c DOUBLE UP AND HORIZONTAL c VERTICAL SINGLE AND
  HORIZONTAL DOUBLE d DOUBLE AND HORIZONTAL SINGLE c DOUBLE VERTICAL AND HORIZONTAL c LIGHT ARC
  DOWN AND RIGHT g LEFT e UP AND LEFT g RIGHT d DIAGONAL UPPER RIGHT TO LOWER LEFT f LEFT TO LOWER
  RIGHT e CROSS d LEFT d UP d RIGHT d DOWN c HEAVY LEFT d UP d RIGHT d DOWN c LIGHT LEFT AND HEAVY
  RIGHT d UP AND HEAVY DOWN c HEAVY LEFT AND LIGHT RIGHT d UP AND LIGHT DOWN a UPPER HALF BLOCK a
  LOWER ONE EIGHTH BLOCK c QUARTER BLOCK b THREE EIGHTHS BLOCK b HALF BLOCK b FIVE EIGHTHS BLOCK b
  THREE QUARTERS BLOCK b SEVEN EIGHTHS BLOCK a FULL BLOCK a LEFT SEVEN EIGHTHS BLOCK b THREE
  QUARTERS BLOCK b FIVE EIGHTHS BLOCK b HALF BLOCK b THREE EIGHTHS BLOCK b ONE QUARTER BLOCK c
  EIGHTH BLOCK a RIGHT HALF BLOCK a LIGHT SHADE a MEDIUM SHADE a DARK SHADE a UPPER ONE EIGHTH
  BLOCK a RIGHT ONE EIGHTH BLOCK a QUADRANT LOWER LEFT c RIGHT b UPPER LEFT d AND LOWER LEFT AND
  LOWER RIGHT f RIGHT e UPPER RIGHT AND LOWER LEFT i RIGHT c RIGHT d AND LOWER LEFT g AND LOWER
  RIGHT a BLACK SQUARE a WHITE SQUARE c WITH ROUNDED CORNERS c CONTAINING BLACK SMALL SQUARE a
  SQUARE WITH HORIZONTAL FILL c VERTICAL FILL c ORTHOGONAL CROSSHATCH FILL c UPPER LEFT TO LOWER
  RIGHT FILL d RIGHT TO LOWER LEFT FILL c DIAGONAL CROSSHATCH FILL a BLACK SMALL SQUARE a WHITE
  SMALL SQUARE a BLACK RECTANGLE a WHITE RECTANGLE a BLACK VERTICAL RECTANGLE a WHITE VERTICAL
  RECTANGLE a BLACK PARALLELOGRAM a WHITE PARALLELOGRAM a BLACK UP-POINTING TRIANGLE a WHITE
  UP-POINTING TRIANGLE a BLACK UP-POINTING SMALL TRIANGLE a WHITE UP-POINTING SMALL TRIANGLE a
  BLACK RIGHT-POINTING TRIANGLE a WHITE RIGHT-POINTING TRIANGLE a BLACK RIGHT-POINTING SMALL
  TRIANGLE a WHITE RIGHT-POINTING SMALL TRIANGLE a BLACK RIGHT-POINTING POINTER a WHITE
  RIGHT-POINTING POINTER a BLACK DOWN-POINTING TRIANGLE a WHITE DOWN-POINTING TRIANGLE a BLACK
  DOWN-POINTING SMALL TRIANGLE a WHITE DOWN-POINTING SMALL TRIANGLE a BLACK LEFT-POINTING TRIANGLE
  a WHITE LEFT-POINTING TRIANGLE a BLACK LEFT-POINTING SMALL TRIANGLE a WHITE LEFT-POINTING SMALL
  TRIANGLE a BLACK LEFT-POINTING POINTER a WHITE LEFT-POINTING POINTER a BLACK DIAMOND a WHITE
  DIAMOND c CONTAINING BLACK SMALL DIAMOND a FISHEYE a LOZENGE a WHITE CIRCLE a DOTTED CIRCLE a
  CIRCLE WITH VERTICAL FILL a BULLSEYE a BLACK CIRCLE a CIRCLE WITH LEFT HALF BLACK c RIGHT HALF
  BLACK c LOWER HALF BLACK c UPPER HALF BLACK d RIGHT QUADRANT BLACK c ALL BUT UPPER LEFT QUADRANT
  BLACK a LEFT HALF BLACK CIRCLE a RIGHT HALF BLACK CIRCLE a INVERSE BULLET b WHITE CIRCLE a UPPER
  HALF INVERSE WHITE CIRCLE a LOWER HALF INVERSE WHITE CIRCLE a UPPER LEFT QUADRANT CIRCULAR ARC b
  RIGHT QUADRANT CIRCULAR ARC a LOWER RIGHT QUADRANT CIRCULAR ARC b LEFT QUADRANT CIRCULAR ARC a
  UPPER HALF CIRCLE a LOWER HALF CIRCLE a BLACK LOWER RIGHT TRIANGLE c LEFT TRIANGLE b UPPER LEFT
  TRIANGLE c RIGHT TRIANGLE a WHITE BULLET a SQUARE WITH LEFT HALF BLACK c RIGHT HALF BLACK c UPPER
  LEFT DIAGONAL HALF BLACK c LOWER RIGHT DIAGONAL HALF BLACK a WHITE SQUARE WITH VERTICAL BISECTING
  LINE b UP-POINTING TRIANGLE WITH DOT a UP-POINTING TRIANGLE WITH LEFT HALF BLACK d RIGHT HALF
  BLACK a LARGE CIRCLE a WHITE SQUARE WITH UPPER LEFT QUADRANT d LOWER LEFT QUADRANT e RIGHT
  QUADRANT d UPPER RIGHT QUADRANT b CIRCLE WITH UPPER LEFT QUADRANT d LOWER LEFT QUADRANT e RIGHT
  QUADRANT d UPPER RIGHT QUADRANT a UPPER LEFT TRIANGLE b RIGHT TRIANGLE a LOWER LEFT TRIANGLE a
  WHITE MEDIUM SQUARE a BLACK MEDIUM SQUARE a WHITE MEDIUM SMALL SQUARE a BLACK MEDIUM SMALL SQUARE
  a LOWER RIGHT TRIANGLE a BLACK SUN WITH RAYS a CLOUD a UMBRELLA a SNOWMAN a COMET a BLACK STAR a
  WHITE STAR a LIGHTNING a THUNDERSTORM a SUN a ASCENDING NODE a DESCENDING NODE a CONJUNCTION a
  OPPOSITION a BLACK TELEPHONE a WHITE TELEPHONE a BALLOT BOX c WITH CHECK d X a SALTIRE a UMBRELLA
  WITH RAIN DROPS a HOT BEVERAGE a WHITE SHOGI PIECE a BLACK SHOGI PIECE a SHAMROCK a REVERSED
  ROTATED FLORAL HEART BULLET a BLACK LEFT POINTING INDEX b RIGHT POINTING INDEX a WHITE LEFT
  POINTING INDEX b UP POINTING INDEX b RIGHT POINTING INDEX b DOWN POINTING INDEX a SKULL AND
  CROSSBONES a CAUTION SIGN a RADIOACTIVE SIGN a BIOHAZARD SIGN a CADUCEUS a ANKH a ORTHODOX CROSS
  a CHI RHO a CROSS OF LORRAINE c JERUSALEM a STAR AND CRESCENT a FARSI SYMBOL a ADI SHAKTI a
  HAMMER AND SICKLE a PEACE SYMBOL a YIN YANG a TRIGRAM FOR HEAVEN c LAKE c FIRE c THUNDER c WIND c
  WATER c MOUNTAIN c EARTH a WHEEL OF DHARMA a WHITE FROWNING FACE b SMILING FACE a BLACK SMILING
  FACE a WHITE SUN WITH RAYS a FIRST QUARTER MOON a LAST QUARTER MOON a MERCURY a FEMALE SIGN a
  EARTH a MALE SIGN a JUPITER a SATURN a URANUS a NEPTUNE a PLUTO a ARIES a TAURUS a GEMINI a
  CANCER a LEO a VIRGO a LIBRA a SCORPIUS a SAGITTARIUS a CAPRICORN a AQUARIUS a PISCES a WHITE
  CHESS KING c QUEEN c ROOK c BISHOP c KNIGHT c PAWN a BLACK CHESS KING c QUEEN c ROOK c BISHOP c
  KNIGHT c PAWN b SPADE SUIT a WHITE HEART SUIT b DIAMOND SUIT a BLACK CLUB SUIT a WHITE SPADE SUIT
  a BLACK HEART SUIT b DIAMOND SUIT a WHITE CLUB SUIT a HOT SPRINGS a QUARTER NOTE a EIGHTH NOTE a
  BEAMED EIGHTH NOTES b SIXTEENTH NOTES a MUSIC FLAT SIGN b NATURAL SIGN b SHARP SIGN a WEST SYRIAC
  CROSS a EAST SYRIAC CROSS a UNIVERSAL RECYCLING SYMBOL a RECYCLING SYMBOL FOR TYPE-1 PLASTICS d
  TYPE-2 PLASTICS d TYPE-3 PLASTICS d TYPE-4 PLASTICS d TYPE-5 PLASTICS d TYPE-6 PLASTICS d TYPE-7
  PLASTICS d GENERIC MATERIALS a BLACK UNIVERSAL RECYCLING SYMBOL a RECYCLED PAPER SYMBOL a
  PARTIALLY-RECYCLED PAPER SYMBOL a PERMANENT PAPER SIGN a WHEELCHAIR SYMBOL a DIE FACE-1 b FACE-2
  b FACE-3 b FACE-4 b FACE-5 b FACE-6 a WHITE CIRCLE WITH DOT RIGHT d TWO DOTS a BLACK CIRCLE WITH
  WHITE DOT RIGHT d TWO WHITE DOTS a MONOGRAM FOR YANG c YIN a DIGRAM FOR GREATER YANG c LESSER YIN
  d YANG c GREATER YIN a WHITE FLAG a BLACK FLAG a HAMMER AND PICK a ANCHOR a CROSSED SWORDS a
  STAFF OF AESCULAPIUS a SCALES a ALEMBIC a FLOWER a GEAR a STAFF OF HERMES a ATOM SYMBOL a
  FLEUR-DE-LIS a OUTLINED WHITE STAR a THREE LINES CONVERGING RIGHT d LEFT a WARNING SIGN a HIGH
  VOLTAGE SIGN a DOUBLED FEMALE SIGN b MALE SIGN a INTERLOCKED FEMALE AND MALE SIGN a MALE AND
  FEMALE SIGN b WITH STROKE SIGN d AND MALE AND FEMALE SIGN a VERTICAL MALE WITH STROKE SIGN a
  HORIZONTAL MALE WITH STROKE SIGN a MEDIUM WHITE CIRCLE b BLACK CIRCLE b SMALL WHITE CIRCLE a
  MARRIAGE SYMBOL a DIVORCE SYMBOL a UNMARRIED PARTNERSHIP SYMBOL a COFFIN a FUNERAL URN a NEUTER a
  CERES a PALLAS a JUNO a VESTA a CHIRON a BLACK MOON LILITH a SEXTILE a SEMISEXTILE a QUINCUNX a
  SESQUIQUADRATE a SOCCER BALL a BASEBALL a SQUARED KEY a WHITE DRAUGHTS MAN c KING a BLACK
  DRAUGHTS MAN c KING a SNOWMAN WITHOUT SNOW a SUN BEHIND CLOUD a RAIN a BLACK SNOWMAN a THUNDER
  CLOUD AND RAIN a TURNED WHITE SHOGI PIECE b BLACK SHOGI PIECE a WHITE DIAMOND IN SQUARE a
  CROSSING LANES a DISABLED CAR a OPHIUCHUS a PICK a CAR SLIDING a HELMET WITH WHITE CROSS a
  CIRCLED CROSSING LANES a CHAINS a NO ENTRY a ALTERNATE ONE-WAY LEFT WAY TRAFFIC a BLACK TWO-WAY
  LEFT WAY TRAFFIC a WHITE TWO-WAY LEFT WAY TRAFFIC a BLACK LEFT LANE MERGE a WHITE LEFT LANE MERGE
  a DRIVE SLOW SIGN a HEAVY WHITE DOWN-POINTING TRIANGLE a LEFT CLOSED ENTRY a SQUARED SALTIRE a
  FALLING DIAGONAL IN WHITE CIRCLE IN BLACK SQUARE a BLACK TRUCK a RESTRICTED LEFT ENTRY-1 c
  ENTRY-2 a ASTRONOMICAL SYMBOL FOR URANUS a HEAVY CIRCLE WITH STROKE AND TWO DOTS ABOVE a
  PENTAGRAM a RIGHT-HANDED INTERLACED PENTAGRAM a LEFT-HANDED INTERLACED PENTAGRAM a INVERTED
  PENTAGRAM a BLACK CROSS ON SHIELD a SHINTO SHRINE a CHURCH a CASTLE a HISTORIC SITE a GEAR
  WITHOUT HUB b WITH HANDLES a MAP SYMBOL FOR LIGHTHOUSE a MOUNTAIN a UMBRELLA ON GROUND a FOUNTAIN
  a FLAG IN HOLE a FERRY a SAILBOAT a SQUARE FOUR CORNERS a SKIER a ICE SKATE a PERSON WITH BALL a
  TENT a JAPANESE BANK SYMBOL a HEADSTONE GRAVEYARD SYMBOL a FUEL PUMP a CUP ON BLACK SQUARE a
  WHITE FLAG WITH HORIZONTAL MIDDLE BLACK STRIPE a BLACK SAFETY SCISSORS a UPPER BLADE SCISSORS a
  BLACK SCISSORS a LOWER BLADE SCISSORS a WHITE SCISSORS b HEAVY CHECK MARK a TELEPHONE LOCATION
  SIGN a TAPE DRIVE a AIRPLANE a ENVELOPE a RAISED FIST b HAND a VICTORY HAND a WRITING HAND a
  LOWER RIGHT PENCIL a PENCIL a UPPER RIGHT PENCIL a WHITE NIB a BLACK NIB a CHECK MARK a HEAVY
  CHECK MARK a MULTIPLICATION X a HEAVY MULTIPLICATION X a BALLOT X a HEAVY BALLOT X a OUTLINED
  GREEK CROSS a HEAVY GREEK CROSS a OPEN CENTRE CROSS a HEAVY OPEN CENTRE CROSS a LATIN CROSS a
  SHADOWED WHITE LATIN CROSS a OUTLINED LATIN CROSS a MALTESE CROSS a STAR OF DAVID a FOUR
  TEARDROP-SPOKED ASTERISK b BALLOON-SPOKED ASTERISK a HEAVY FOUR BALLOON-SPOKED ASTERISK a FOUR
  CLUB-SPOKED ASTERISK a BLACK FOUR POINTED STAR a WHITE FOUR POINTED STAR a SPARKLES a STRESS
  OUTLINED WHITE STAR a CIRCLED WHITE STAR a OPEN CENTRE BLACK STAR a BLACK CENTRE WHITE STAR a
  OUTLINED BLACK STAR a HEAVY OUTLINED BLACK STAR a PINWHEEL STAR a SHADOWED WHITE STAR a HEAVY
  ASTERISK a OPEN CENTRE ASTERISK a EIGHT SPOKED ASTERISK b POINTED BLACK STAR c PINWHEEL STAR a
  SIX POINTED BLACK STAR a EIGHT POINTED RECTILINEAR BLACK STAR a HEAVY EIGHT POINTED RECTILINEAR
  BLACK STAR a TWELVE POINTED BLACK STAR a SIXTEEN POINTED ASTERISK a TEARDROP-SPOKED ASTERISK a
  OPEN CENTRE TEARDROP-SPOKED ASTERISK a HEAVY TEARDROP-SPOKED ASTERISK a SIX PETALLED BLACK AND
  WHITE FLORETTE a BLACK FLORETTE a WHITE FLORETTE a EIGHT PETALLED OUTLINED BLACK FLORETTE a
  CIRCLED OPEN CENTRE EIGHT POINTED STAR a HEAVY TEARDROP-SPOKED PINWHEEL ASTERISK a SNOWFLAKE a
  TIGHT TRIFOLIATE SNOWFLAKE a HEAVY CHEVRON SNOWFLAKE a SPARKLE a HEAVY SPARKLE a BALLOON-SPOKED
  ASTERISK a EIGHT TEARDROP-SPOKED PROPELLER ASTERISK a HEAVY EIGHT TEARDROP-SPOKED PROPELLER
  ASTERISK a CROSS MARK a SHADOWED WHITE CIRCLE a NEGATIVE SQUARED CROSS MARK a LOWER RIGHT
  DROP-SHADOWED WHITE SQUARE a UPPER RIGHT DROP-SHADOWED WHITE SQUARE a LOWER RIGHT SHADOWED WHITE
  SQUARE a UPPER RIGHT SHADOWED WHITE SQUARE a BLACK QUESTION MARK ORNAMENT a WHITE QUESTION MARK
  ORNAMENT b EXCLAMATION MARK ORNAMENT a BLACK DIAMOND MINUS WHITE X a HEAVY EXCLAMATION MARK
  SYMBOL a LIGHT VERTICAL BAR a MEDIUM VERTICAL BAR a HEAVY VERTICAL BAR b SINGLE TURNED COMMA
  QUOTATION MARK ORNAMENT c COMMA QUOTATION MARK ORNAMENT b DOUBLE TURNED COMMA QUOTATION MARK
  ORNAMENT c COMMA QUOTATION MARK ORNAMENT b LOW SINGLE COMMA QUOTATION MARK ORNAMENT c DOUBLE
  COMMA QUOTATION MARK ORNAMENT a CURVED STEM PARAGRAPH SIGN ORNAMENT a HEAVY EXCLAMATION MARK
  ORNAMENT b HEART EXCLAMATION MARK ORNAMENT b BLACK HEART a ROTATED HEAVY BLACK HEART BULLET a
  FLORAL HEART a ROTATED FLORAL HEART BULLET a MEDIUM LEFT PARENTHESIS ORNAMENT b RIGHT PARENTHESIS
  ORNAMENT b FLATTENED LEFT PARENTHESIS ORNAMENT c RIGHT PARENTHESIS ORNAMENT b LEFT-POINTING ANGLE
  BRACKET ORNAMENT b RIGHT-POINTING ANGLE BRACKET ORNAMENT a HEAVY LEFT-POINTING ANGLE QUOTATION
  MARK ORNAMENT b RIGHT-POINTING ANGLE QUOTATION MARK ORNAMENT b LEFT-POINTING ANGLE BRACKET
  ORNAMENT b RIGHT-POINTING ANGLE BRACKET ORNAMENT a LIGHT LEFT TORTOISE SHELL BRACKET ORNAMENT b
  RIGHT TORTOISE SHELL BRACKET ORNAMENT a MEDIUM LEFT CURLY BRACKET ORNAMENT b RIGHT CURLY BRACKET
  ORNAMENT a DINGBAT NEGATIVE CIRCLED DIGIT ONE e TWO e THREE e FOUR e FIVE e SIX e SEVEN e EIGHT e
  NINE d NUMBER TEN b CIRCLED SANS-SERIF DIGIT ONE e TWO e THREE e FOUR e FIVE e SIX e SEVEN e
  EIGHT e NINE d NUMBER TEN b NEGATIVE CIRCLED SANS-SERIF DIGIT ONE f TWO f THREE f FOUR f FIVE f
  SIX f SEVEN f EIGHT f NINE e NUMBER TEN a HEAVY WIDE-HEADED RIGHTWARDS ARROW b PLUS SIGN b MINUS
  SIGN b DIVISION SIGN b SOUTH EAST ARROW b RIGHTWARDS ARROW b NORTH EAST ARROW a DRAFTING POINT
  RIGHTWARDS ARROW a HEAVY ROUND-TIPPED RIGHTWARDS ARROW a TRIANGLE-HEADED RIGHTWARDS ARROW a HEAVY
  TRIANGLE-HEADED RIGHTWARDS ARROW a DASHED TRIANGLE-HEADED RIGHTWARDS ARROW a HEAVY DASHED
  TRIANGLE-HEADED RIGHTWARDS ARROW a BLACK RIGHTWARDS ARROW a THREE-D TOP-LIGHTED RIGHTWARDS
  ARROWHEAD b BOTTOM-LIGHTED RIGHTWARDS ARROWHEAD a BLACK RIGHTWARDS ARROWHEAD a HEAVY BLACK CURVED
  DOWNWARDS AND RIGHTWARDS ARROW d UPWARDS AND RIGHTWARDS ARROW a SQUAT BLACK RIGHTWARDS ARROW a
  HEAVY CONCAVE-POINTED BLACK RIGHTWARDS ARROW a RIGHT-SHADED WHITE RIGHTWARDS ARROW a LEFT-SHADED
  WHITE RIGHTWARDS ARROW a BACK-TILTED SHADOWED WHITE RIGHTWARDS ARROW a FRONT-TILTED SHADOWED
  WHITE RIGHTWARDS ARROW a HEAVY LOWER RIGHT-SHADOWED WHITE RIGHTWARDS ARROW b UPPER RIGHT-SHADOWED
  WHITE RIGHTWARDS ARROW a NOTCHED LOWER RIGHT-SHADOWED WHITE RIGHTWARDS ARROW a CURLY LOOP a
  NOTCHED UPPER RIGHT-SHADOWED WHITE RIGHTWARDS ARROW a CIRCLED HEAVY WHITE RIGHTWARDS ARROW a
  WHITE-FEATHERED RIGHTWARDS ARROW a BLACK-FEATHERED SOUTH EAST ARROW b RIGHTWARDS ARROW b NORTH
  EAST ARROW a HEAVY BLACK-FEATHERED SOUTH EAST ARROW c RIGHTWARDS ARROW c NORTH EAST ARROW a
  TEARDROP-BARBED RIGHTWARDS ARROW a HEAVY TEARDROP-SHANKED RIGHTWARDS ARROW a WEDGE-TAILED
  RIGHTWARDS ARROW a HEAVY WEDGE-TAILED RIGHTWARDS ARROW a OPEN-OUTLINED RIGHTWARDS ARROW a DOUBLE
  CURLY LOOP a THREE DIMENSIONAL ANGLE a WHITE TRIANGLE CONTAINING SMALL WHITE TRIANGLE a
  PERPENDICULAR a OPEN SUBSET b SUPERSET a LEFT S-SHAPED BAG DELIMITER a RIGHT S-SHAPED BAG
  DELIMITER a OR WITH DOT INSIDE a REVERSE SOLIDUS PRECEDING SUBSET a SUPERSET PRECEDING SOLIDUS a
  VERTICAL BAR WITH HORIZONTAL STROKE a MATHEMATICAL RISING DIAGONAL a LONG DIVISION a MATHEMATICAL
  FALLING DIAGONAL a SQUARED LOGICAL AND c OR a WHITE DIAMOND WITH CENTRED DOT a AND WITH DOT a
  ELEMENT OF OPENING UPWARDS a LOWER RIGHT CORNER WITH DOT a UPPER LEFT CORNER WITH DOT a LEFT
  OUTER JOIN a RIGHT OUTER JOIN a FULL OUTER JOIN a LARGE UP TACK b DOWN TACK a LEFT AND RIGHT
  DOUBLE TURNSTILE d TACK b MULTIMAP a LONG RIGHT TACK b LEFT TACK a UP TACK WITH CIRCLE ABOVE a
  LOZENGE DIVIDED BY HORIZONTAL RULE a WHITE CONCAVE-SIDED DIAMOND d WITH LEFTWARDS TICK e
  RIGHTWARDS TICK b SQUARE WITH LEFTWARDS TICK d RIGHTWARDS TICK a MATHEMATICAL LEFT WHITE SQUARE
  BRACKET b RIGHT WHITE SQUARE BRACKET b LEFT ANGLE BRACKET b RIGHT ANGLE BRACKET b LEFT DOUBLE
  ANGLE BRACKET b RIGHT DOUBLE ANGLE BRACKET b LEFT WHITE TORTOISE SHELL BRACKET b RIGHT WHITE
  TORTOISE SHELL BRACKET b LEFT FLATTENED PARENTHESIS b RIGHT FLATTENED PARENTHESIS a UPWARDS
  QUADRUPLE ARROW a DOWNWARDS QUADRUPLE ARROW a ANTICLOCKWISE GAPPED CIRCLE ARROW a CLOCKWISE
  GAPPED CIRCLE ARROW a RIGHT ARROW WITH CIRCLED PLUS a LONG LEFTWARDS ARROW b RIGHTWARDS ARROW b
  LEFT RIGHT ARROW b LEFTWARDS DOUBLE ARROW b RIGHTWARDS DOUBLE ARROW b LEFT RIGHT DOUBLE ARROW b
  LEFTWARDS ARROW FROM BAR b RIGHTWARDS ARROW FROM BAR b LEFTWARDS DOUBLE ARROW FROM BAR b
  RIGHTWARDS DOUBLE ARROW FROM BAR c SQUIGGLE ARROW a BRAILLE PATTERN BLANK c DOTS-1 c DOTS-2 c
  DOTS-12 c DOTS-3 c DOTS-13 c DOTS-23 c DOTS-123 c DOTS-4 c DOTS-14 c DOTS-24 c DOTS-124 c DOTS-34
  c DOTS-134 c DOTS-234 c DOTS-1234 c DOTS-5 c DOTS-15 c DOTS-25 c DOTS-125 c DOTS-35 c DOTS-135 c
  DOTS-235 c DOTS-1235 c DOTS-45 c DOTS-145 c DOTS-245 c DOTS-1245 c DOTS-345 c DOTS-1345 c
  DOTS-2345 c DOTS-12345 c DOTS-6 c DOTS-16 c DOTS-26 c DOTS-126 c DOTS-36 c DOTS-136 c DOTS-236 c
  DOTS-1236 c DOTS-46 c DOTS-146 c DOTS-246 c DOTS-1246 c DOTS-346 c DOTS-1346 c DOTS-2346 c
  DOTS-12346 c DOTS-56 c DOTS-156 c DOTS-256 c DOTS-1256 c DOTS-356 c DOTS-1356 c DOTS-2356 c
  DOTS-12356 c DOTS-456 c DOTS-1456 c DOTS-2456 c DOTS-12456 c DOTS-3456 c DOTS-13456 c DOTS-23456
  c DOTS-123456 c DOTS-7 c DOTS-17 c DOTS-27 c DOTS-127 c DOTS-37 c DOTS-137 c DOTS-237 c DOTS-1237
  c DOTS-47 c DOTS-147 c DOTS-247 c DOTS-1247 c DOTS-347 c DOTS-1347 c DOTS-2347 c DOTS-12347 c
  DOTS-57 c DOTS-157 c DOTS-257 c DOTS-1257 c DOTS-357 c DOTS-1357 c DOTS-2357 c DOTS-12357 c
  DOTS-457 c DOTS-1457 c DOTS-2457 c DOTS-12457 c DOTS-3457 c DOTS-13457 c DOTS-23457 c DOTS-123457
  c DOTS-67 c DOTS-167 c DOTS-267 c DOTS-1267 c DOTS-367 c DOTS-1367 c DOTS-2367 c DOTS-12367 c
  DOTS-467 c DOTS-1467 c DOTS-2467 c DOTS-12467 c DOTS-3467 c DOTS-13467 c DOTS-23467 c DOTS-123467
  c DOTS-567 c DOTS-1567 c DOTS-2567 c DOTS-12567 c DOTS-3567 c DOTS-13567 c DOTS-23567 c
  DOTS-123567 c DOTS-4567 c DOTS-14567 c DOTS-24567 c DOTS-124567 c DOTS-34567 c DOTS-134567 c
  DOTS-234567 c DOTS-1234567 c DOTS-8 c DOTS-18 c DOTS-28 c DOTS-128 c DOTS-38 c DOTS-138 c
  DOTS-238 c DOTS-1238 c DOTS-48 c DOTS-148 c DOTS-248 c DOTS-1248 c DOTS-348 c DOTS-1348 c
  DOTS-2348 c DOTS-12348 c DOTS-58 c DOTS-158 c DOTS-258 c DOTS-1258 c DOTS-358 c DOTS-1358 c
  DOTS-2358 c DOTS-12358 c DOTS-458 c DOTS-1458 c DOTS-2458 c DOTS-12458 c DOTS-3458 c DOTS-13458 c
  DOTS-23458 c DOTS-123458 c DOTS-68 c DOTS-168 c DOTS-268 c DOTS-1268 c DOTS-368 c DOTS-1368 c
  DOTS-2368 c DOTS-12368 c DOTS-468 c DOTS-1468 c DOTS-2468 c DOTS-12468 c DOTS-3468 c DOTS-13468 c
  DOTS-23468 c DOTS-123468 c DOTS-568 c DOTS-1568 c DOTS-2568 c DOTS-12568 c DOTS-3568 c DOTS-13568
  c DOTS-23568 c DOTS-123568 c DOTS-4568 c DOTS-14568 c DOTS-24568 c DOTS-124568 c DOTS-34568 c
  DOTS-134568 c DOTS-234568 c DOTS-1234568 c DOTS-78 c DOTS-178 c DOTS-278 c DOTS-1278 c DOTS-378 c
  DOTS-1378 c DOTS-2378 c DOTS-12378 c DOTS-478 c DOTS-1478 c DOTS-2478 c DOTS-12478 c DOTS-3478 c
  DOTS-13478 c DOTS-23478 c DOTS-123478 c DOTS-578 c DOTS-1578 c DOTS-2578 c DOTS-12578 c DOTS-3578
  c DOTS-13578 c DOTS-23578 c DOTS-123578 c DOTS-4578 c DOTS-14578 c DOTS-24578 c DOTS-124578 c
  DOTS-34578 c DOTS-134578 c DOTS-234578 c DOTS-1234578 c DOTS-678 c DOTS-1678 c DOTS-2678 c
  DOTS-12678 c DOTS-3678 c DOTS-13678 c DOTS-23678 c DOTS-123678 c DOTS-4678 c DOTS-14678 c
  DOTS-24678 c DOTS-124678 c DOTS-34678 c DOTS-134678 c DOTS-234678 c DOTS-1234678 c DOTS-5678 c
  DOTS-15678 c DOTS-25678 c DOTS-125678 c DOTS-35678 c DOTS-135678 c DOTS-235678 c DOTS-1235678 c
  DOTS-45678 c DOTS-145678 c DOTS-245678 c DOTS-1245678 c DOTS-345678 c DOTS-1345678 c DOTS-2345678
  c DOTS-12345678 a RIGHTWARDS TWO-HEADED ARROW WITH VERTICAL STROKE e DOUBLE VERTICAL STROKE a
  LEFTWARDS DOUBLE ARROW WITH VERTICAL STROKE a RIGHTWARDS DOUBLE ARROW WITH VERTICAL STROKE a LEFT
  RIGHT DOUBLE ARROW WITH VERTICAL STROKE a RIGHTWARDS TWO-HEADED ARROW FROM BAR a LEFTWARDS DOUBLE
  ARROW FROM BAR a RIGHTWARDS DOUBLE ARROW FROM BAR a DOWNWARDS ARROW WITH HORIZONTAL STROKE a
  UPWARDS ARROW WITH HORIZONTAL STROKE b TRIPLE ARROW a DOWNWARDS TRIPLE ARROW a LEFTWARDS DOUBLE
  DASH ARROW a RIGHTWARDS DOUBLE DASH ARROW a LEFTWARDS TRIPLE DASH ARROW a RIGHTWARDS TRIPLE DASH
  ARROW b TWO-HEADED TRIPLE DASH ARROW b ARROW WITH DOTTED STEM a UPWARDS ARROW TO BAR a DOWNWARDS
  ARROW TO BAR a RIGHTWARDS ARROW WITH TAIL WITH VERTICAL STROKE f DOUBLE VERTICAL STROKE b
  TWO-HEADED ARROW WITH TAIL f WITH VERTICAL STROKE g DOUBLE VERTICAL STROKE a LEFTWARDS ARROW-TAIL
  a RIGHTWARDS ARROW-TAIL a LEFTWARDS DOUBLE ARROW-TAIL a RIGHTWARDS DOUBLE ARROW-TAIL a LEFTWARDS
  ARROW TO BLACK DIAMOND a RIGHTWARDS ARROW TO BLACK DIAMOND a LEFTWARDS ARROW FROM BAR TO BLACK
  DIAMOND a RIGHTWARDS ARROW FROM BAR TO BLACK DIAMOND a NORTH WEST AND SOUTH EAST ARROW b EAST AND
  SOUTH WEST ARROW b WEST ARROW WITH HOOK b EAST ARROW WITH HOOK a SOUTH EAST ARROW WITH HOOK b
  WEST ARROW WITH HOOK a NORTH WEST ARROW AND NORTH EAST ARROW b EAST ARROW AND SOUTH EAST ARROW a
  SOUTH EAST ARROW AND SOUTH WEST ARROW b WEST ARROW AND NORTH WEST ARROW a RISING DIAGONAL
  CROSSING FALLING DIAGONAL a FALLING DIAGONAL CROSSING RISING DIAGONAL a SOUTH EAST ARROW CROSSING
  NORTH EAST ARROW a NORTH EAST ARROW CROSSING SOUTH EAST ARROW a FALLING DIAGONAL CROSSING NORTH
  EAST ARROW a RISING DIAGONAL CROSSING SOUTH EAST ARROW a NORTH EAST ARROW CROSSING NORTH WEST
  ARROW b WEST ARROW CROSSING NORTH EAST ARROW a WAVE ARROW POINTING DIRECTLY RIGHT a ARROW
  POINTING RIGHTWARDS THEN CURVING UPWARDS f DOWNWARDS c DOWNWARDS THEN CURVING LEFTWARDS f
  RIGHTWARDS a RIGHT-SIDE ARC CLOCKWISE ARROW a LEFT-SIDE ARC ANTICLOCKWISE ARROW a TOP ARC
  ANTICLOCKWISE ARROW a BOTTOM ARC ANTICLOCKWISE ARROW a TOP ARC CLOCKWISE ARROW WITH MINUS c
  ANTICLOCKWISE ARROW WITH PLUS a LOWER RIGHT SEMICIRCULAR CLOCKWISE ARROW b LEFT SEMICIRCULAR
  ANTICLOCKWISE ARROW a ANTICLOCKWISE CLOSED CIRCLE ARROW a CLOCKWISE CLOSED CIRCLE ARROW a
  RIGHTWARDS ARROW ABOVE SHORT LEFTWARDS ARROW a LEFTWARDS ARROW ABOVE SHORT RIGHTWARDS ARROW a
  SHORT RIGHTWARDS ARROW ABOVE LEFTWARDS ARROW a RIGHTWARDS ARROW WITH PLUS BELOW a LEFTWARDS ARROW
  WITH PLUS BELOW a RIGHTWARDS ARROW THROUGH X a LEFT RIGHT ARROW THROUGH SMALL CIRCLE a UPWARDS
  TWO-HEADED ARROW FROM SMALL CIRCLE a LEFT BARB UP RIGHT BARB DOWN HARPOON c DOWN RIGHT BARB UP
  HARPOON a UP BARB RIGHT DOWN BARB LEFT HARPOON c LEFT DOWN BARB RIGHT HARPOON a LEFT BARB UP
  RIGHT BARB UP HARPOON a UP BARB RIGHT DOWN BARB RIGHT HARPOON a LEFT BARB DOWN RIGHT BARB DOWN
  HARPOON a UP BARB LEFT DOWN BARB LEFT HARPOON a LEFTWARDS HARPOON WITH BARB UP TO BAR a
  RIGHTWARDS HARPOON WITH BARB UP TO BAR a UPWARDS HARPOON WITH BARB RIGHT TO BAR a DOWNWARDS
  HARPOON WITH BARB RIGHT TO BAR a LEFTWARDS HARPOON WITH BARB DOWN TO BAR a RIGHTWARDS HARPOON
  WITH BARB DOWN TO BAR a UPWARDS HARPOON WITH BARB LEFT TO BAR a DOWNWARDS HARPOON WITH BARB LEFT
  TO BAR a LEFTWARDS HARPOON WITH BARB UP FROM BAR a RIGHTWARDS HARPOON WITH BARB UP FROM BAR a
  UPWARDS HARPOON WITH BARB RIGHT FROM BAR a DOWNWARDS HARPOON WITH BARB RIGHT FROM BAR a LEFTWARDS
  HARPOON WITH BARB DOWN FROM BAR a RIGHTWARDS HARPOON WITH BARB DOWN FROM BAR a UPWARDS HARPOON
  WITH BARB LEFT FROM BAR a DOWNWARDS HARPOON WITH BARB LEFT FROM BAR a LEFTWARDS HARPOON WITH BARB
  UP ABOVE LEFTWARDS HARPOON WITH BARB DOWN a UPWARDS HARPOON WITH BARB LEFT BESIDE UPWARDS HARPOON
  WITH BARB RIGHT a RIGHTWARDS HARPOON WITH BARB UP ABOVE RIGHTWARDS HARPOON WITH BARB DOWN a
  DOWNWARDS HARPOON WITH BARB LEFT BESIDE DOWNWARDS HARPOON WITH BARB RIGHT a LEFTWARDS HARPOON
  WITH BARB UP ABOVE RIGHTWARDS HARPOON WITH BARB UP e DOWN ABOVE RIGHTWARDS HARPOON WITH BARB DOWN
  a RIGHTWARDS HARPOON WITH BARB UP ABOVE LEFTWARDS HARPOON WITH BARB UP e DOWN ABOVE LEFTWARDS
  HARPOON WITH BARB DOWN a LEFTWARDS HARPOON WITH BARB UP ABOVE LONG DASH e DOWN BELOW LONG DASH a
  RIGHTWARDS HARPOON WITH BARB UP ABOVE LONG DASH e DOWN BELOW LONG DASH a UPWARDS HARPOON WITH
  BARB LEFT BESIDE DOWNWARDS HARPOON WITH BARB RIGHT a DOWNWARDS HARPOON WITH BARB LEFT BESIDE
  UPWARDS HARPOON WITH BARB RIGHT a RIGHT DOUBLE ARROW WITH ROUNDED HEAD a EQUALS SIGN ABOVE
  RIGHTWARDS ARROW a TILDE OPERATOR ABOVE RIGHTWARDS ARROW a LEFTWARDS ARROW ABOVE TILDE OPERATOR a
  RIGHTWARDS ARROW ABOVE TILDE OPERATOR d ALMOST EQUAL TO a LESS-THAN ABOVE LEFTWARDS ARROW a
  LEFTWARDS ARROW THROUGH LESS-THAN a GREATER-THAN ABOVE RIGHTWARDS ARROW a SUBSET ABOVE RIGHTWARDS
  ARROW a LEFTWARDS ARROW THROUGH SUBSET a SUPERSET ABOVE LEFTWARDS ARROW a LEFT FISH TAIL a RIGHT
  FISH TAIL a UP FISH TAIL a DOWN FISH TAIL a TRIPLE VERTICAL BAR DELIMITER a Z NOTATION SPOT c
  TYPE COLON a LEFT WHITE CURLY BRACKET a RIGHT WHITE CURLY BRACKET a LEFT WHITE PARENTHESIS a
  RIGHT WHITE PARENTHESIS a Z NOTATION LEFT IMAGE BRACKET c RIGHT IMAGE BRACKET c LEFT BINDING
  BRACKET c RIGHT BINDING BRACKET a LEFT SQUARE BRACKET WITH UNDERBAR a RIGHT SQUARE BRACKET WITH
  UNDERBAR a LEFT SQUARE BRACKET WITH TICK IN TOP CORNER a RIGHT SQUARE BRACKET WITH TICK IN BOTTOM
  CORNER a LEFT SQUARE BRACKET WITH TICK IN BOTTOM CORNER a RIGHT SQUARE BRACKET WITH TICK IN TOP
  CORNER a LEFT ANGLE BRACKET WITH DOT a RIGHT ANGLE BRACKET WITH DOT a LEFT ARC LESS-THAN BRACKET
  a RIGHT ARC GREATER-THAN BRACKET a DOUBLE LEFT ARC GREATER-THAN BRACKET b RIGHT ARC LESS-THAN
  BRACKET a LEFT BLACK TORTOISE SHELL BRACKET a RIGHT BLACK TORTOISE SHELL BRACKET a DOTTED FENCE a
  VERTICAL ZIGZAG LINE a MEASURED ANGLE OPENING LEFT a RIGHT ANGLE VARIANT WITH SQUARE a MEASURED
  RIGHT ANGLE WITH DOT a ANGLE WITH S INSIDE a ACUTE ANGLE a SPHERICAL ANGLE OPENING LEFT d UP a
  TURNED ANGLE a REVERSED ANGLE a ANGLE WITH UNDERBAR a REVERSED ANGLE WITH UNDERBAR a OBLIQUE
  ANGLE OPENING UP d DOWN a MEASURED ANGLE WITH OPEN ARM ENDING IN ARROW POINTING UP AND RIGHT l
  LEFT j DOWN AND RIGHT l LEFT j RIGHT AND UP j LEFT AND UP j RIGHT AND DOWN j LEFT AND DOWN a
  REVERSED EMPTY SET a EMPTY SET WITH OVERBAR d SMALL CIRCLE ABOVE d RIGHT ARROW ABOVE d LEFT ARROW
  ABOVE a CIRCLE WITH HORIZONTAL BAR a CIRCLED VERTICAL BAR b PARALLEL b REVERSE SOLIDUS b
  PERPENDICULAR a CIRCLE DIVIDED BY HORIZONTAL BAR AND TOP HALF DIVIDED BY VERTICAL BAR b WITH
  SUPERIMPOSED X a CIRCLED ANTICLOCKWISE-ROTATED DIVISION SIGN a UP ARROW THROUGH CIRCLE a CIRCLED
  WHITE BULLET b BULLET b LESS-THAN b GREATER-THAN a CIRCLE WITH SMALL CIRCLE TO THE RIGHT c TWO
  HORIZONTAL STROKES TO THE RIGHT a SQUARED RISING DIAGONAL SLASH b FALLING DIAGONAL SLASH b
  ASTERISK b SMALL CIRCLE b SQUARE a TWO JOINED SQUARES a TRIANGLE WITH DOT ABOVE c UNDERBAR a S IN
  TRIANGLE a TRIANGLE WITH SERIFS AT BOTTOM a RIGHT TRIANGLE ABOVE LEFT TRIANGLE a LEFT TRIANGLE
  BESIDE VERTICAL BAR a VERTICAL BAR BESIDE RIGHT TRIANGLE a BOWTIE WITH LEFT HALF BLACK c RIGHT
  HALF BLACK a BLACK BOWTIE a TIMES WITH LEFT HALF BLACK c RIGHT HALF BLACK a WHITE HOURGLASS a
  BLACK HOURGLASS a LEFT WIGGLY FENCE a RIGHT WIGGLY FENCE a LEFT DOUBLE WIGGLY FENCE a RIGHT
  DOUBLE WIGGLY FENCE a INCOMPLETE INFINITY a TIE OVER INFINITY a INFINITY NEGATED WITH VERTICAL
  BAR a DOUBLE-ENDED MULTIMAP a SQUARE WITH CONTOURED OUTLINE a INCREASES AS a SHUFFLE PRODUCT a
  EQUALS SIGN AND SLANTED PARALLEL f WITH TILDE ABOVE a IDENTICAL TO AND SLANTED PARALLEL a GLEICH
  STARK a THERMODYNAMIC a DOWN-POINTING TRIANGLE WITH LEFT HALF BLACK d RIGHT HALF BLACK a BLACK
  DIAMOND WITH DOWN ARROW b LOZENGE a WHITE CIRCLE WITH DOWN ARROW a BLACK CIRCLE WITH DOWN ARROW a
  ERROR-BARRED WHITE SQUARE b BLACK SQUARE b WHITE DIAMOND b BLACK DIAMOND b WHITE CIRCLE b BLACK
  CIRCLE a RULE-DELAYED a REVERSE SOLIDUS OPERATOR a SOLIDUS WITH OVERBAR a REVERSE SOLIDUS WITH
  HORIZONTAL STROKE a BIG SOLIDUS b REVERSE SOLIDUS a DOUBLE PLUS a TRIPLE PLUS a LEFT-POINTING
  CURVED ANGLE BRACKET a RIGHT-POINTING CURVED ANGLE BRACKET a TINY a MINY a N-ARY CIRCLED DOT
  OPERATOR c PLUS OPERATOR c TIMES OPERATOR b UNION OPERATOR WITH DOT e PLUS b SQUARE INTERSECTION
  OPERATOR c UNION OPERATOR a TWO LOGICAL AND OPERATOR c OR OPERATOR a N-ARY TIMES OPERATOR a
  MODULO TWO SUM a SUMMATION WITH INTEGRAL a QUADRUPLE INTEGRAL OPERATOR a FINITE PART INTEGRAL a
  INTEGRAL WITH DOUBLE STROKE b AVERAGE WITH SLASH a CIRCULATION FUNCTION a ANTICLOCKWISE
  INTEGRATION a LINE INTEGRATION WITH RECTANGULAR PATH AROUND POLE d SEMICIRCULAR PATH AROUND POLE
  c NOT INCLUDING THE POLE a INTEGRAL AROUND A POINT OPERATOR a QUATERNION INTEGRAL OPERATOR a
  INTEGRAL WITH LEFTWARDS ARROW WITH HOOK c TIMES SIGN c INTERSECTION c UNION c OVERBAR c UNDERBAR
  a JOIN a LARGE LEFT TRIANGLE OPERATOR a Z NOTATION SCHEMA COMPOSITION d PIPING d PROJECTION a
  PLUS SIGN WITH SMALL CIRCLE ABOVE d CIRCUMFLEX ACCENT ABOVE d TILDE ABOVE d DOT BELOW d TILDE
  BELOW d SUBSCRIPT TWO d BLACK TRIANGLE a MINUS SIGN WITH COMMA ABOVE d DOT BELOW d FALLING DOTS d
  RISING DOTS a PLUS SIGN IN LEFT HALF CIRCLE d RIGHT HALF CIRCLE a VECTOR OR CROSS PRODUCT a
  MULTIPLICATION SIGN WITH DOT ABOVE d UNDERBAR a SEMIDIRECT PRODUCT WITH BOTTOM CLOSED a SMASH
  PRODUCT a MULTIPLICATION SIGN IN LEFT HALF CIRCLE d RIGHT HALF CIRCLE a CIRCLED MULTIPLICATION
  SIGN WITH CIRCUMFLEX ACCENT a MULTIPLICATION SIGN IN DOUBLE CIRCLE a CIRCLED DIVISION SIGN a PLUS
  SIGN IN TRIANGLE a MINUS SIGN IN TRIANGLE a MULTIPLICATION SIGN IN TRIANGLE a INTERIOR PRODUCT a
  RIGHTHAND INTERIOR PRODUCT a Z NOTATION RELATIONAL COMPOSITION a AMALGAMATION OR COPRODUCT a
  INTERSECTION WITH DOT a UNION WITH MINUS SIGN c OVERBAR a INTERSECTION WITH OVERBAR c LOGICAL AND
  a UNION WITH LOGICAL OR b ABOVE INTERSECTION a INTERSECTION ABOVE UNION a UNION ABOVE BAR ABOVE
  INTERSECTION a INTERSECTION ABOVE BAR ABOVE UNION a UNION BESIDE AND JOINED WITH UNION a
  INTERSECTION BESIDE AND JOINED WITH INTERSECTION a CLOSED UNION WITH SERIFS b INTERSECTION WITH
  SERIFS a DOUBLE SQUARE INTERSECTION c UNION a CLOSED UNION WITH SERIFS AND SMASH PRODUCT a
  LOGICAL AND WITH DOT ABOVE b OR WITH DOT ABOVE a DOUBLE LOGICAL AND c OR a TWO INTERSECTING
  LOGICAL AND d OR a SLOPING LARGE OR c AND a LOGICAL OR OVERLAPPING LOGICAL AND b AND WITH MIDDLE
  STEM b OR WITH MIDDLE STEM b AND WITH HORIZONTAL DASH b OR WITH HORIZONTAL DASH b AND WITH DOUBLE
  OVERBAR d UNDERBAR d DOUBLE UNDERBAR a SMALL VEE WITH UNDERBAR a LOGICAL OR WITH DOUBLE OVERBAR e
  UNDERBAR a Z NOTATION DOMAIN ANTIRESTRICTION c RANGE ANTIRESTRICTION a EQUALS SIGN WITH DOT BELOW
  a IDENTICAL WITH DOT ABOVE a TRIPLE HORIZONTAL BAR WITH DOUBLE VERTICAL STROKE e TRIPLE VERTICAL
  STROKE a TILDE OPERATOR WITH DOT ABOVE d RISING DOTS a SIMILAR MINUS SIMILAR a CONGRUENT WITH DOT
  ABOVE a EQUALS WITH ASTERISK a ALMOST EQUAL TO WITH CIRCUMFLEX ACCENT a APPROXIMATELY EQUAL OR
  EQUAL TO a EQUALS SIGN ABOVE PLUS SIGN a PLUS SIGN ABOVE EQUALS SIGN a EQUALS SIGN ABOVE TILDE
  OPERATOR a DOUBLE COLON EQUAL a TWO CONSECUTIVE EQUALS SIGNS a THREE CONSECUTIVE EQUALS SIGNS a
  EQUALS SIGN WITH TWO DOTS ABOVE AND TWO DOTS BELOW a EQUIVALENT WITH FOUR DOTS ABOVE a LESS-THAN
  WITH CIRCLE INSIDE a GREATER-THAN WITH CIRCLE INSIDE a LESS-THAN WITH QUESTION MARK ABOVE a
  GREATER-THAN WITH QUESTION MARK ABOVE a LESS-THAN OR SLANTED EQUAL TO a GREATER-THAN OR SLANTED
  EQUAL TO a LESS-THAN OR SLANTED EQUAL TO WITH DOT INSIDE a GREATER-THAN OR SLANTED EQUAL TO WITH
  DOT INSIDE a LESS-THAN OR SLANTED EQUAL TO WITH DOT ABOVE a GREATER-THAN OR SLANTED EQUAL TO WITH
  DOT ABOVE a LESS-THAN OR SLANTED EQUAL TO WITH DOT ABOVE RIGHT a GREATER-THAN OR SLANTED EQUAL TO
  WITH DOT ABOVE LEFT a LESS-THAN OR APPROXIMATE a GREATER-THAN OR APPROXIMATE a LESS-THAN AND
  SINGLE-LINE NOT EQUAL TO a GREATER-THAN AND SINGLE-LINE NOT EQUAL TO a LESS-THAN AND NOT
  APPROXIMATE a GREATER-THAN AND NOT APPROXIMATE a LESS-THAN ABOVE DOUBLE-LINE EQUAL ABOVE
  GREATER-THAN a GREATER-THAN ABOVE DOUBLE-LINE EQUAL ABOVE LESS-THAN a LESS-THAN ABOVE SIMILAR OR
  EQUAL a GREATER-THAN ABOVE SIMILAR OR EQUAL a LESS-THAN ABOVE SIMILAR ABOVE GREATER-THAN a
  GREATER-THAN ABOVE SIMILAR ABOVE LESS-THAN a LESS-THAN ABOVE GREATER-THAN ABOVE DOUBLE-LINE EQUAL
  a GREATER-THAN ABOVE LESS-THAN ABOVE DOUBLE-LINE EQUAL a LESS-THAN ABOVE SLANTED EQUAL ABOVE
  GREATER-THAN ABOVE SLANTED EQUAL a GREATER-THAN ABOVE SLANTED EQUAL ABOVE LESS-THAN ABOVE SLANTED
  EQUAL a SLANTED EQUAL TO OR LESS-THAN e GREATER-THAN e LESS-THAN WITH DOT INSIDE e GREATER-THAN
  WITH DOT INSIDE a DOUBLE-LINE EQUAL TO OR LESS-THAN e GREATER-THAN b SLANTED EQUAL TO OR
  LESS-THAN f GREATER-THAN a SIMILAR OR LESS-THAN c GREATER-THAN b ABOVE LESS-THAN ABOVE EQUALS
  SIGN c GREATER-THAN ABOVE EQUALS SIGN a DOUBLE NESTED LESS-THAN c GREATER-THAN c LESS-THAN WITH
  UNDERBAR a GREATER-THAN OVERLAPPING LESS-THAN b BESIDE LESS-THAN a LESS-THAN CLOSED BY CURVE a
  GREATER-THAN CLOSED BY CURVE a LESS-THAN CLOSED BY CURVE ABOVE SLANTED EQUAL a GREATER-THAN
  CLOSED BY CURVE ABOVE SLANTED EQUAL a SMALLER THAN a LARGER THAN a SMALLER THAN OR EQUAL TO a
  LARGER THAN OR EQUAL TO a EQUALS SIGN WITH BUMPY ABOVE a PRECEDES ABOVE SINGLE-LINE EQUALS SIGN a
  SUCCEEDS ABOVE SINGLE-LINE EQUALS SIGN a PRECEDES ABOVE SINGLE-LINE NOT EQUAL TO a SUCCEEDS ABOVE
  SINGLE-LINE NOT EQUAL TO a PRECEDES ABOVE EQUALS SIGN a SUCCEEDS ABOVE EQUALS SIGN a PRECEDES
  ABOVE NOT EQUAL TO a SUCCEEDS ABOVE NOT EQUAL TO a PRECEDES ABOVE ALMOST EQUAL TO a SUCCEEDS
  ABOVE ALMOST EQUAL TO a PRECEDES ABOVE NOT ALMOST EQUAL TO a SUCCEEDS ABOVE NOT ALMOST EQUAL TO a
  DOUBLE PRECEDES b SUCCEEDS a SUBSET WITH DOT a SUPERSET WITH DOT a SUBSET WITH PLUS SIGN BELOW a
  SUPERSET WITH PLUS SIGN BELOW a SUBSET WITH MULTIPLICATION SIGN BELOW a SUPERSET WITH
  MULTIPLICATION SIGN BELOW a SUBSET OF OR EQUAL TO WITH DOT ABOVE a SUPERSET OF OR EQUAL TO WITH
  DOT ABOVE a SUBSET OF ABOVE EQUALS SIGN a SUPERSET OF ABOVE EQUALS SIGN a SUBSET OF ABOVE TILDE
  OPERATOR a SUPERSET OF ABOVE TILDE OPERATOR a SUBSET OF ABOVE ALMOST EQUAL TO a SUPERSET OF ABOVE
  ALMOST EQUAL TO a SUBSET OF ABOVE NOT EQUAL TO a SUPERSET OF ABOVE NOT EQUAL TO a SQUARE LEFT
  OPEN BOX OPERATOR b RIGHT OPEN BOX OPERATOR a CLOSED SUBSET b SUPERSET b SUBSET OR EQUAL TO b
  SUPERSET OR EQUAL TO a SUBSET ABOVE SUPERSET a SUPERSET ABOVE SUBSET a SUBSET ABOVE SUBSET a
  SUPERSET ABOVE SUPERSET b BESIDE SUBSET c AND JOINED BY DASH WITH SUBSET a ELEMENT OF OPENING
  DOWNWARDS a PITCHFORK WITH TEE TOP a TRANSVERSAL INTERSECTION a FORKING a NONFORKING a SHORT LEFT
  TACK b DOWN TACK b UP TACK a PERPENDICULAR WITH S a VERTICAL BAR TRIPLE RIGHT TURNSTILE a DOUBLE
  VERTICAL BAR LEFT TURNSTILE a VERTICAL BAR DOUBLE LEFT TURNSTILE a DOUBLE VERTICAL BAR DOUBLE
  LEFT TURNSTILE a LONG DASH FROM LEFT MEMBER OF DOUBLE VERTICAL a SHORT DOWN TACK WITH OVERBAR b
  UP TACK WITH UNDERBAR d ABOVE SHORT DOWN TACK a DOUBLE DOWN TACK b UP TACK b STROKE NOT SIGN a
  REVERSED DOUBLE STROKE NOT SIGN a DOES NOT DIVIDE WITH REVERSED NEGATION SLASH a VERTICAL LINE
  WITH CIRCLE ABOVE e BELOW a DOWN TACK WITH CIRCLE BELOW a PARALLEL WITH HORIZONTAL STROKE c TILDE
  OPERATOR a TRIPLE VERTICAL BAR BINARY RELATION d WITH HORIZONTAL STROKE b COLON OPERATOR b NESTED
  LESS-THAN c GREATER-THAN a DOUBLE-LINE SLANTED LESS-THAN OR EQUAL TO c GREATER-THAN OR EQUAL TO a
  TRIPLE SOLIDUS BINARY RELATION a LARGE TRIPLE VERTICAL BAR OPERATOR a DOUBLE SOLIDUS OPERATOR a
  WHITE VERTICAL BAR a N-ARY WHITE VERTICAL BAR a NORTH EAST WHITE ARROW b WEST WHITE ARROW a SOUTH
  EAST WHITE ARROW b WEST WHITE ARROW a LEFT RIGHT WHITE ARROW a LEFTWARDS BLACK ARROW a UPWARDS
  BLACK ARROW a DOWNWARDS BLACK ARROW a NORTH EAST BLACK ARROW b WEST BLACK ARROW a SOUTH EAST
  BLACK ARROW b WEST BLACK ARROW a LEFT RIGHT BLACK ARROW a UP DOWN BLACK ARROW a RIGHTWARDS ARROW
  WITH TIP DOWNWARDS e UPWARDS a LEFTWARDS ARROW WITH TIP DOWNWARDS e UPWARDS a SQUARE WITH TOP
  HALF BLACK c BOTTOM HALF BLACK c UPPER RIGHT DIAGONAL HALF BLACK c LOWER LEFT DIAGONAL HALF BLACK
  a DIAMOND WITH LEFT HALF BLACK c RIGHT HALF BLACK c TOP HALF BLACK c BOTTOM HALF BLACK a DOTTED
  SQUARE a BLACK LARGE SQUARE a WHITE LARGE SQUARE a BLACK VERY SMALL SQUARE a WHITE VERY SMALL
  SQUARE a BLACK PENTAGON a WHITE PENTAGON b HEXAGON a BLACK HEXAGON a HORIZONTAL BLACK HEXAGON a
  BLACK LARGE CIRCLE b MEDIUM DIAMOND a WHITE MEDIUM DIAMOND a BLACK MEDIUM LOZENGE a WHITE MEDIUM
  LOZENGE a BLACK SMALL DIAMOND c LOZENGE a WHITE SMALL LOZENGE a BLACK HORIZONTAL ELLIPSE a WHITE
  HORIZONTAL ELLIPSE a BLACK VERTICAL ELLIPSE a WHITE VERTICAL ELLIPSE a LEFT ARROW WITH SMALL
  CIRCLE a THREE LEFTWARDS ARROWS a LEFT ARROW WITH CIRCLED PLUS a LONG LEFTWARDS SQUIGGLE ARROW a
  LEFTWARDS TWO-HEADED ARROW WITH VERTICAL STROKE e DOUBLE VERTICAL STROKE d FROM BAR c TRIPLE DASH
  ARROW b ARROW WITH DOTTED STEM d TAIL WITH VERTICAL STROKE f DOUBLE VERTICAL STROKE b TWO-HEADED
  ARROW WITH TAIL f WITH VERTICAL STROKE g DOUBLE VERTICAL STROKE b ARROW THROUGH X a WAVE ARROW
  POINTING DIRECTLY LEFT a EQUALS SIGN ABOVE LEFTWARDS ARROW a REVERSE TILDE OPERATOR ABOVE
  LEFTWARDS ARROW a LEFTWARDS ARROW ABOVE REVERSE ALMOST EQUAL TO a RIGHTWARDS ARROW THROUGH
  GREATER-THAN d SUPERSET a LEFTWARDS QUADRUPLE ARROW a RIGHTWARDS QUADRUPLE ARROW a REVERSE TILDE
  OPERATOR ABOVE RIGHTWARDS ARROW a RIGHTWARDS ARROW ABOVE REVERSE ALMOST EQUAL TO a TILDE OPERATOR
  ABOVE LEFTWARDS ARROW a LEFTWARDS ARROW ABOVE ALMOST EQUAL TO d REVERSE TILDE OPERATOR a
  RIGHTWARDS ARROW ABOVE REVERSE TILDE OPERATOR a DOWNWARDS TRIANGLE-HEADED ZIGZAG ARROW a SHORT
  SLANTED NORTH ARROW b BACKSLANTED SOUTH ARROW a WHITE MEDIUM STAR a BLACK SMALL STAR a WHITE
  SMALL STAR a BLACK RIGHT-POINTING PENTAGON a WHITE RIGHT-POINTING PENTAGON a HEAVY LARGE CIRCLE b
  OVAL WITH OVAL INSIDE b CIRCLE WITH CIRCLE INSIDE c b CIRCLED SALTIRE a SLANTED NORTH ARROW WITH
  HOOKED HEAD a BACKSLANTED SOUTH ARROW WITH HOOKED TAIL a SLANTED NORTH ARROW WITH HORIZONTAL TAIL
  a BACKSLANTED SOUTH ARROW WITH HORIZONTAL TAIL a BENT ARROW POINTING DOWNWARDS THEN NORTH EAST a
  SHORT BENT ARROW POINTING DOWNWARDS THEN NORTH EAST a LEFTWARDS TRIANGLE-HEADED ARROW a UPWARDS
  TRIANGLE-HEADED ARROW a RIGHTWARDS TRIANGLE-HEADED ARROW a DOWNWARDS TRIANGLE-HEADED ARROW a LEFT
  RIGHT TRIANGLE-HEADED ARROW a UP DOWN TRIANGLE-HEADED ARROW a NORTH WEST TRIANGLE-HEADED ARROW b
  EAST TRIANGLE-HEADED ARROW a SOUTH EAST TRIANGLE-HEADED ARROW b WEST TRIANGLE-HEADED ARROW a
  LEFTWARDS TRIANGLE-HEADED DASHED ARROW a UPWARDS TRIANGLE-HEADED DASHED ARROW a RIGHTWARDS
  TRIANGLE-HEADED DASHED ARROW a DOWNWARDS TRIANGLE-HEADED DASHED ARROW a CLOCKWISE TRIANGLE-HEADED
  OPEN CIRCLE ARROW a ANTICLOCKWISE TRIANGLE-HEADED OPEN CIRCLE ARROW a LEFTWARDS TRIANGLE-HEADED
  ARROW TO BAR a UPWARDS TRIANGLE-HEADED ARROW TO BAR a RIGHTWARDS TRIANGLE-HEADED ARROW TO BAR a
  DOWNWARDS TRIANGLE-HEADED ARROW TO BAR a+3 NORTH WEST TRIANGLE-HEADED ARROW TO BAR b EAST
  TRIANGLE-HEADED ARROW TO BAR a SOUTH EAST TRIANGLE-HEADED ARROW TO BAR b WEST TRIANGLE-HEADED
  ARROW TO BAR a LEFTWARDS TRIANGLE-HEADED ARROW WITH DOUBLE HORIZONTAL STROKE a UPWARDS
  TRIANGLE-HEADED ARROW WITH DOUBLE HORIZONTAL STROKE a RIGHTWARDS TRIANGLE-HEADED ARROW WITH
  DOUBLE HORIZONTAL STROKE a DOWNWARDS TRIANGLE-HEADED ARROW WITH DOUBLE HORIZONTAL STROKE a
  HORIZONTAL TAB KEY a VERTICAL TAB KEY a LEFTWARDS TRIANGLE-HEADED ARROW OVER RIGHTWARDS
  TRIANGLE-HEADED ARROW a UPWARDS TRIANGLE-HEADED ARROW LEFTWARDS OF DOWNWARDS TRIANGLE-HEADED
  ARROW a RIGHTWARDS TRIANGLE-HEADED ARROW OVER LEFTWARDS TRIANGLE-HEADED ARROW a DOWNWARDS
  TRIANGLE-HEADED ARROW LEFTWARDS OF UPWARDS TRIANGLE-HEADED ARROW a LEFTWARDS TRIANGLE-HEADED
  PAIRED ARROWS a UPWARDS TRIANGLE-HEADED PAIRED ARROWS a RIGHTWARDS TRIANGLE-HEADED PAIRED ARROWS
  a DOWNWARDS TRIANGLE-HEADED PAIRED ARROWS a LEFTWARDS BLACK CIRCLED WHITE ARROW a UPWARDS BLACK
  CIRCLED WHITE ARROW a RIGHTWARDS BLACK CIRCLED WHITE ARROW a DOWNWARDS BLACK CIRCLED WHITE ARROW
  a ANTICLOCKWISE TRIANGLE-HEADED RIGHT U-SHAPED ARROW c BOTTOM U-SHAPED ARROW c LEFT U-SHAPED
  ARROW c TOP U-SHAPED ARROW a RETURN LEFT b RIGHT a NEWLINE LEFT b RIGHT a FOUR CORNER ARROWS
  CIRCLING ANTICLOCKWISE a RIGHTWARDS BLACK ARROW a+2 SYMBOL FOR TYPE A ELECTRONICS a THREE-D
  TOP-LIGHTED LEFTWARDS EQUILATERAL ARROWHEAD b RIGHT-LIGHTED UPWARDS EQUILATERAL ARROWHEAD b
  TOP-LIGHTED RIGHTWARDS EQUILATERAL ARROWHEAD b LEFT-LIGHTED DOWNWARDS EQUILATERAL ARROWHEAD a
  BLACK LEFTWARDS EQUILATERAL ARROWHEAD b UPWARDS EQUILATERAL ARROWHEAD b RIGHTWARDS EQUILATERAL
  ARROWHEAD b DOWNWARDS EQUILATERAL ARROWHEAD a DOWNWARDS TRIANGLE-HEADED ARROW WITH LONG TIP
  LEFTWARDS g RIGHTWARDS a UPWARDS TRIANGLE-HEADED ARROW WITH LONG TIP LEFTWARDS g RIGHTWARDS a
  LEFTWARDS TRIANGLE-HEADED ARROW WITH LONG TIP UPWARDS a RIGHTWARDS TRIANGLE-HEADED ARROW WITH
  LONG TIP UPWARDS a LEFTWARDS TRIANGLE-HEADED ARROW WITH LONG TIP DOWNWARDS a RIGHTWARDS
  TRIANGLE-HEADED ARROW WITH LONG TIP DOWNWARDS a BLACK CURVED DOWNWARDS AND LEFTWARDS ARROW e
  RIGHTWARDS ARROW c UPWARDS AND LEFTWARDS ARROW e RIGHTWARDS ARROW c LEFTWARDS AND UPWARDS ARROW c
  RIGHTWARDS AND UPWARDS ARROW c LEFTWARDS AND DOWNWARDS ARROW c RIGHTWARDS AND DOWNWARDS ARROW a
  RIBBON ARROW DOWN LEFT d RIGHT c UP LEFT d RIGHT c LEFT UP c RIGHT UP c LEFT DOWN c RIGHT DOWN a
  UPWARDS WHITE ARROW FROM BAR WITH HORIZONTAL BAR a UP ARROWHEAD IN A RECTANGLE BOX a OVERLAPPING
  WHITE SQUARES c AND BLACK SQUARES b BLACK SQUARES a BALLOT BOX WITH LIGHT X a CIRCLED X b BOLD X
  a BLACK SQUARE CENTRED b DIAMOND CENTRED a TURNED BLACK PENTAGON a HORIZONTAL BLACK OCTAGON a
  BLACK OCTAGON b MEDIUM UP-POINTING TRIANGLE CENTRED c DOWN-POINTING TRIANGLE CENTRED c
  LEFT-POINTING TRIANGLE CENTRED c RIGHT-POINTING TRIANGLE CENTRED a NEPTUNE FORM TWO a TOP HALF
  BLACK CIRCLE a BOTTOM HALF BLACK CIRCLE a LIGHT FOUR POINTED BLACK CUSP a ROTATED LIGHT FOUR
  POINTED BLACK CUSP a WHITE FOUR POINTED CUSP a ROTATED WHITE FOUR POINTED CUSP a SQUARE POSITION
  INDICATOR a UNCERTAINTY SIGN a GROUP MARK a PLUTO FORM TWO c THREE c FOUR c FIVE a TRANSPLUTO a
  PROSERPINA a ASTRAEA a HYGIEA a PHOLUS a NESSUS a WHITE MOON SELENA a BLACK DIAMOND ON CROSS a
  TRUE LIGHT MOON ARTA a CUPIDO a HADES a ZEUS a KRONOS a APOLLON a ADMETOS a VULCANUS a POSEIDON a
  LEFT HALF BLACK STAR a RIGHT HALF BLACK STAR a STAR WITH LEFT HALF BLACK c RIGHT HALF BLACK a
  LEFTWARDS TWO-HEADED ARROW WITH TRIANGLE ARROWHEADS a UPWARDS TWO-HEADED ARROW WITH TRIANGLE
  ARROWHEADS a RIGHTWARDS TWO-HEADED ARROW WITH TRIANGLE ARROWHEADS a DOWNWARDS TWO-HEADED ARROW
  WITH TRIANGLE ARROWHEADS a ERIS FORM ONE c TWO a SEDNA a RUSSIAN ASTROLOGICAL SYMBOL VIGINTILE d
  NOVILE d QUINTILE d BINOVILE d SENTAGON d TREDECILE a EQUALS SIGN WITH INFINITY BELOW a UNITED
  SYMBOL a SEPARATED SYMBOL a DOUBLED SYMBOL a PASSED SYMBOL a REVERSED RIGHT ANGLE a HELLSCHREIBER
  PAUSE SYMBOL a GLAGOLITIC CAPITAL LETTER AZU d BUKY d VEDE d GLAGOLI d DOBRO d YESTU d ZHIVETE d
  DZELO d ZEMLJA d IZHE d INITIAL IZHE d I d DJERVI d KAKO d LJUDIJE d MYSLITE d NASHI d ONU d
  POKOJI d RITSI d SLOVO d TVRIDO d UKU d FRITU d HERU d OTU d PE d SHTA d TSI d CHRIVI d SHA d
  YERU d YERI d YATI d SPIDERY HA d YU d SMALL YUS f WITH TAIL d YO d IOTATED SMALL YUS d BIG YUS d
  IOTATED BIG YUS d FITA d IZHITSA d SHTAPIC d TROKUTASTI A d LATINATE MYSLITE d CAUDATE CHRIVI b
  SMALL LETTER AZU d BUKY d VEDE d GLAGOLI d DOBRO d YESTU d ZHIVETE d DZELO d ZEMLJA d IZHE d
  INITIAL IZHE d I d DJERVI d KAKO d LJUDIJE d MYSLITE d NASHI d ONU d POKOJI d RITSI d SLOVO d
  TVRIDO d UKU d FRITU d HERU d OTU d PE d SHTA d TSI d CHRIVI d SHA d YERU d YERI d YATI d SPIDERY
  HA d YU d SMALL YUS f WITH TAIL d YO d IOTATED SMALL YUS d BIG YUS d IOTATED BIG YUS d FITA d
  IZHITSA d SHTAPIC d TROKUTASTI A d LATINATE MYSLITE d CAUDATE CHRIVI a LATIN CAPITAL LETTER L
  WITH DOUBLE BAR b SMALL LETTER L WITH DOUBLE BAR b CAPITAL LETTER L WITH MIDDLE TILDE d P WITH
  STROKE d R WITH TAIL b SMALL LETTER A WITH STROKE d T WITH DIAGONAL STROKE b CAPITAL LETTER H
  WITH DESCENDER b SMALL LETTER H WITH DESCENDER b CAPITAL LETTER K WITH DESCENDER b SMALL LETTER K
  WITH DESCENDER b CAPITAL LETTER Z WITH DESCENDER b SMALL LETTER Z WITH DESCENDER b CAPITAL LETTER
  ALPHA d M WITH HOOK d TURNED A e ALPHA b SMALL LETTER V WITH RIGHT HOOK b CAPITAL LETTER W WITH
  HOOK b SMALL LETTER W WITH HOOK d V WITH CURL b CAPITAL LETTER HALF H b SMALL LETTER HALF H d
  TAILLESS PHI d E WITH NOTCH d TURNED R WITH TAIL d O WITH LOW RING INSIDE b LETTER SMALL CAPITAL
  TURNED E b SUBSCRIPT SMALL LETTER J a MODIFIER LETTER CAPITAL V a LATIN CAPITAL LETTER S WITH
  SWASH TAIL d Z WITH SWASH TAIL a COPTIC CAPITAL LETTER ALFA b SMALL LETTER ALFA b CAPITAL LETTER
  VIDA b SMALL LETTER VIDA b CAPITAL LETTER GAMMA b SMALL LETTER GAMMA b CAPITAL LETTER DALDA b
  SMALL LETTER DALDA b CAPITAL LETTER EIE b SMALL LETTER EIE b CAPITAL LETTER SOU b SMALL LETTER
  SOU b CAPITAL LETTER ZATA b SMALL LETTER ZATA b CAPITAL LETTER HATE b SMALL LETTER HATE b CAPITAL
  LETTER THETHE b SMALL LETTER THETHE b CAPITAL LETTER IAUDA b SMALL LETTER IAUDA b CAPITAL LETTER
  KAPA b SMALL LETTER KAPA b CAPITAL LETTER LAULA b SMALL LETTER LAULA b CAPITAL LETTER MI b SMALL
  LETTER MI b CAPITAL LETTER NI b SMALL LETTER NI b CAPITAL LETTER KSI b SMALL LETTER KSI b CAPITAL
  LETTER O b SMALL LETTER O b CAPITAL LETTER PI b SMALL LETTER PI b CAPITAL LETTER RO b SMALL
  LETTER RO b CAPITAL LETTER SIMA b SMALL LETTER SIMA b CAPITAL LETTER TAU b SMALL LETTER TAU b
  CAPITAL LETTER UA b SMALL LETTER UA b CAPITAL LETTER FI b SMALL LETTER FI b CAPITAL LETTER KHI b
  SMALL LETTER KHI b CAPITAL LETTER PSI b SMALL LETTER PSI b CAPITAL LETTER OOU b SMALL LETTER OOU
  b CAPITAL LETTER DIALECT-P ALEF b SMALL LETTER DIALECT-P ALEF b CAPITAL LETTER OLD COPTIC AIN b
  SMALL LETTER OLD COPTIC AIN b CAPITAL LETTER CRYPTOGRAMMIC EIE b SMALL LETTER CRYPTOGRAMMIC EIE b
  CAPITAL LETTER DIALECT-P KAPA b SMALL LETTER DIALECT-P KAPA b CAPITAL LETTER DIALECT-P NI b SMALL
  LETTER DIALECT-P NI b CAPITAL LETTER CRYPTOGRAMMIC NI b SMALL LETTER CRYPTOGRAMMIC NI b CAPITAL
  LETTER OLD COPTIC OOU b SMALL LETTER OLD COPTIC OOU b CAPITAL LETTER SAMPI b SMALL LETTER SAMPI b
  CAPITAL LETTER CROSSED SHEI b SMALL LETTER CROSSED SHEI b CAPITAL LETTER OLD COPTIC SHEI b SMALL
  LETTER OLD COPTIC SHEI b CAPITAL LETTER OLD COPTIC ESH b SMALL LETTER OLD COPTIC ESH b CAPITAL
  LETTER AKHMIMIC KHEI b SMALL LETTER AKHMIMIC KHEI b CAPITAL LETTER DIALECT-P HORI b SMALL LETTER
  DIALECT-P HORI b CAPITAL LETTER OLD COPTIC HORI b SMALL LETTER OLD COPTIC HORI b CAPITAL LETTER
  OLD COPTIC HA b SMALL LETTER OLD COPTIC HA b CAPITAL LETTER L-SHAPED HA b SMALL LETTER L-SHAPED
  HA b CAPITAL LETTER OLD COPTIC HEI b SMALL LETTER OLD COPTIC HEI b CAPITAL LETTER OLD COPTIC HAT
  b SMALL LETTER OLD COPTIC HAT b CAPITAL LETTER OLD COPTIC GANGIA b SMALL LETTER OLD COPTIC GANGIA
  b CAPITAL LETTER OLD COPTIC DJA b SMALL LETTER OLD COPTIC DJA b CAPITAL LETTER OLD COPTIC SHIMA b
  SMALL LETTER OLD COPTIC SHIMA b CAPITAL LETTER OLD NUBIAN SHIMA b SMALL LETTER OLD NUBIAN SHIMA b
  CAPITAL LETTER OLD NUBIAN NGI b SMALL LETTER OLD NUBIAN NGI b CAPITAL LETTER OLD NUBIAN NYI b
  SMALL LETTER OLD NUBIAN NYI b CAPITAL LETTER OLD NUBIAN WAU b SMALL LETTER OLD NUBIAN WAU b
  SYMBOL KAI c MI RO c PI RO c STAUROS c TAU RO c KHI RO c SHIMA SIMA b CAPITAL LETTER
  CRYPTOGRAMMIC SHEI b SMALL LETTER CRYPTOGRAMMIC SHEI b CAPITAL LETTER CRYPTOGRAMMIC GANGIA b
  SMALL LETTER CRYPTOGRAMMIC GANGIA b COMBINING NI ABOVE c SPIRITUS ASPER d LENIS b CAPITAL LETTER
  BOHAIRIC KHEI b SMALL LETTER BOHAIRIC KHEI b+6 OLD NUBIAN FULL STOP d DIRECT QUESTION MARK d
  INDIRECT QUESTION MARK d VERSE DIVIDER b FRACTION ONE HALF b FULL STOP b MORPHOLOGICAL DIVIDER a
  GEORGIAN SMALL LETTER AN d BAN d GAN d DON d EN d VIN d ZEN d TAN d IN d KAN d LAS d MAN d NAR d
  ON d PAR d ZHAR d RAE d SAN d TAR d UN d PHAR d KHAR d GHAN d QAR d SHIN d CHIN d CAN d JIL d CIL
  d CHAR d XAN d JHAN d HAE d HE d HIE d WE d HAR d HOE d+2 YN d+6 AEN a+3 TIFINAGH LETTER YA c YAB
  c YABH c YAG c YAGHH c BERBER ACADEMY YAJ c YAJ c YAD c YADH c YADD c YADDH c YEY c YAF c YAK c
  TUAREG YAK c YAKHH c YAH c BERBER ACADEMY YAH c TUAREG YAH c YAHH c YAA c YAKH c TUAREG YAKH c
  YAQ c TUAREG YAQ c YI c YAZH c AHAGGAR YAZH c TUAREG YAZH c YAL c YAM c YAN c TUAREG YAGN d YANG
  c YAP c YU c YAR c YARR c YAGH c TUAREG YAGH c AYER YAGH c YAS c YASS c YASH c YAT c YATH c YACH
  c YATT c YAV c YAW c YAY c YAZ c TAWELLEMET YAZ c YAZZ c YE c YO b+8 MODIFIER LETTER
  LABIALIZATION MARK b SEPARATOR MARK b+f CONSONANT JOINER a ETHIOPIC SYLLABLE LOA c MOA c ROA c
  SOA c SHOA c BOA c TOA c COA c NOA c NYOA c GLOTTAL OA c ZOA c DOA c DDOA c JOA c THOA c CHOA c
  PHOA c POA c GGWA c GGWI c GGWEE c GGWE c+a SSA c SSU c SSI c SSAA c SSEE c SSE c SSO c+2 CCA c
  CCU c CCI c CCAA c CCEE c CCE c CCO c+2 ZZA c ZZU c ZZI c ZZAA c ZZEE c ZZE c ZZO c+2 CCHA c CCHU
  c CCHI c CCHAA c CCHEE c CCHE c CCHO c+2 QYA c QYU c QYI c QYAA c QYEE c QYE c QYO c+2 KYA c KYU
  c KYI c KYAA c KYEE c KYE c KYO c+2 XYA c XYU c XYI c XYAA c XYEE c XYE c XYO c+2 GYA c GYU c GYI
  c GYAA c GYEE c GYE c GYO a+2 COMBINING CYRILLIC LETTER BE d VE d GHE d DE d ZHE d ZE d KA d EL d
  EM d EN d O d PE d ER d ES d TE d HA d TSE d CHE d SHA d SHCHA d FITA d ES-TE d A d IE d DJERV d
  MONOGRAPH UK d YAT d YU d IOTIFIED A d LITTLE YUS d BIG YUS d IOTIFIED BIG YUS a RIGHT ANGLE
  SUBSTITUTION MARKER c DOTTED SUBSTITUTION MARKER a LEFT SUBSTITUTION BRACKET a RIGHT SUBSTITUTION
  BRACKET a LEFT DOTTED SUBSTITUTION BRACKET a RIGHT DOTTED SUBSTITUTION BRACKET a RAISED
  INTERPOLATION MARKER b DOTTED INTERPOLATION MARKER a DOTTED TRANSPOSITION MARKER a LEFT
  TRANSPOSITION BRACKET a RIGHT TRANSPOSITION BRACKET a RAISED SQUARE a LEFT RAISED OMISSION
  BRACKET a RIGHT RAISED OMISSION BRACKET a EDITORIAL CORONIS a PARAGRAPHOS a FORKED PARAGRAPHOS a
  REVERSED FORKED PARAGRAPHOS a HYPODIASTOLE a DOTTED OBELOS a DOWNWARDS ANCORA a UPWARDS ANCORA a
  DOTTED RIGHT-POINTING ANGLE a DOUBLE OBLIQUE HYPHEN a INVERTED INTERROBANG a PALM BRANCH a HYPHEN
  WITH DIAERESIS a TILDE WITH RING ABOVE a LEFT LOW PARAPHRASE BRACKET a RIGHT LOW PARAPHRASE
  BRACKET a TILDE WITH DOT ABOVE d BELOW a LEFT VERTICAL BAR WITH QUILL a RIGHT VERTICAL BAR WITH
  QUILL a TOP LEFT HALF BRACKET b RIGHT HALF BRACKET a BOTTOM LEFT HALF BRACKET b RIGHT HALF
  BRACKET a LEFT SIDEWAYS U BRACKET a RIGHT SIDEWAYS U BRACKET a LEFT DOUBLE PARENTHESIS a RIGHT
  DOUBLE PARENTHESIS a TWO DOTS OVER ONE DOT PUNCTUATION a ONE DOT OVER TWO DOTS PUNCTUATION a
  SQUARED FOUR DOT PUNCTUATION a FIVE DOT MARK a REVERSED QUESTION MARK a VERTICAL TILDE a RING
  POINT a WORD SEPARATOR MIDDLE DOT a TURNED COMMA a RAISED DOT b COMMA a TURNED SEMICOLON a DAGGER
  WITH LEFT GUARD c RIGHT GUARD a TURNED DAGGER a TOP HALF SECTION SIGN a TWO-EM DASH a THREE-EM
  DASH a STENOGRAPHIC FULL STOP a VERTICAL SIX DOTS a WIGGLY VERTICAL LINE a CAPITULUM a DOUBLE
  HYPHEN a REVERSED COMMA a DOUBLE LOW-REVERSED-9 QUOTATION MARK a DASH WITH LEFT UPTURN a DOUBLE
  SUSPENSION MARK a INVERTED LOW KAVYKA d WITH KAVYKA ABOVE a LOW KAVYKA c WITH DOT a DOUBLE
  STACKED COMMA a DOTTED SOLIDUS a TRIPLE DAGGER a MEDIEVAL COMMA a PARAGRAPHUS MARK a PUNCTUS
  ELEVATUS MARK a CORNISH VERSE DIVIDER a CROSS PATTY WITH RIGHT CROSSBAR d LEFT CROSSBAR a
  TIRONIAN SIGN CAPITAL ET a MEDIEVAL EXCLAMATION MARK b QUESTION MARK a LEFT SQUARE BRACKET WITH
  STROKE a RIGHT SQUARE BRACKET WITH STROKE a LEFT SQUARE BRACKET WITH DOUBLE STROKE a RIGHT SQUARE
  BRACKET WITH DOUBLE STROKE a TOP HALF LEFT PARENTHESIS c RIGHT PARENTHESIS a BOTTOM HALF LEFT
  PARENTHESIS c RIGHT PARENTHESIS a OBLIQUE HYPHEN a+23 CJK RADICAL REPEAT c CLIFF c SECOND ONE d
  TWO d THREE c PERSON c BOX c TABLE c KNIFE ONE d TWO c DIVINATION c SEAL c SMALL ONE d TWO c LAME
  ONE d TWO d THREE d FOUR c SNAKE c THREAD c SNOUT ONE d TWO c HEART ONE d TWO c HAND c RAP c+2
  CHOKE c SUN c MOON c DEATH c MOTHER c CIVILIAN c WATER ONE d TWO c FIRE c PAW ONE d TWO c
  SIMPLIFIED HALF TREE TRUNK c COW c DOG c JADE c BOLT OF CLOTH c EYE c SPIRIT ONE d TWO c BAMBOO c
  SILK c C-SIMPLIFIED SILK c NET ONE d TWO d THREE d FOUR c MESH c SHEEP c RAM c EWE c OLD c BRUSH
  ONE d TWO c MEAT c MORTAR c GRASS ONE d TWO d THREE c TIGER c CLOTHES c WEST ONE d TWO c
  C-SIMPLIFIED SEE c SIMPLIFIED HORN c HORN c C-SIMPLIFIED SPEECH d SHELL c FOOT c C-SIMPLIFIED
  CART c SIMPLIFIED WALK c WALK ONE d TWO c CITY c C-SIMPLIFIED GOLD c LONG ONE d TWO c
  C-SIMPLIFIED LONG d GATE c MOUND ONE d TWO c RAIN c BLUE c C-SIMPLIFIED TANNED LEATHER d LEAF d
  WIND d FLY c EAT ONE d TWO d THREE c C-SIMPLIFIED EAT c HEAD c C-SIMPLIFIED HORSE c BONE c GHOST
  c C-SIMPLIFIED FISH d BIRD d SALT c SIMPLIFIED WHEAT d YELLOW c C-SIMPLIFIED FROG c J-SIMPLIFIED
  EVEN c C-SIMPLIFIED EVEN c J-SIMPLIFIED TOOTH c C-SIMPLIFIED TOOTH c J-SIMPLIFIED DRAGON c
  C-SIMPLIFIED DRAGON c TURTLE c J-SIMPLIFIED TURTLE c C-SIMPLIFIED TURTLE a+d KANGXI RADICAL ONE c
  LINE c DOT c SLASH c SECOND c HOOK c TWO c LID c MAN c LEGS c ENTER c EIGHT c DOWN BOX c COVER c
  ICE c TABLE c OPEN BOX c KNIFE c POWER c WRAP c SPOON c RIGHT OPEN BOX c HIDING ENCLOSURE c TEN c
  DIVINATION c SEAL c CLIFF c PRIVATE c AGAIN c MOUTH c ENCLOSURE c EARTH c SCHOLAR c GO d SLOWLY c
  EVENING c BIG c WOMAN c CHILD c ROOF c INCH c SMALL c LAME c CORPSE c SPROUT c MOUNTAIN c RIVER c
  WORK c ONESELF c TURBAN c DRY c SHORT THREAD c DOTTED CLIFF c LONG STRIDE c TWO HANDS c SHOOT c
  BOW c SNOUT c BRISTLE c STEP c HEART c HALBERD c DOOR c HAND c BRANCH c RAP c SCRIPT c DIPPER c
  AXE c SQUARE c NOT c SUN c SAY c MOON c TREE c LACK c STOP c DEATH c WEAPON c DO NOT c COMPARE c
  FUR c CLAN c STEAM c WATER c FIRE c CLAW c FATHER c DOUBLE X c HALF TREE TRUNK c SLICE c FANG c
  COW c DOG c PROFOUND c JADE c MELON c TILE c SWEET c LIFE c USE c FIELD c BOLT OF CLOTH c
  SICKNESS c DOTTED TENT c WHITE c SKIN c DISH c EYE c SPEAR c ARROW c STONE c SPIRIT c TRACK c
  GRAIN c CAVE c STAND c BAMBOO c RICE c SILK c JAR c NET c SHEEP c FEATHER c OLD c AND c PLOW c
  EAR c BRUSH c MEAT c MINISTER c SELF c ARRIVE c MORTAR c TONGUE c OPPOSE c BOAT c STOPPING c
  COLOR c GRASS c TIGER c INSECT c BLOOD c WALK ENCLOSURE c CLOTHES c WEST c SEE c HORN c SPEECH c
  VALLEY c BEAN c PIG c BADGER c SHELL c RED c RUN c FOOT c BODY c CART c BITTER c MORNING c WALK c
  CITY c WINE c DISTINGUISH c VILLAGE c GOLD c LONG c GATE c MOUND c SLAVE c SHORT TAILED BIRD c
  RAIN c BLUE c WRONG c FACE c LEATHER c TANNED LEATHER c LEEK c SOUND c LEAF c WIND c FLY c EAT c
  HEAD c FRAGRANT c HORSE c BONE c TALL c HAIR c FIGHT c SACRIFICIAL WINE c CAULDRON c GHOST c FISH
  c BIRD c SALT c DEER c WHEAT c HEMP c YELLOW c MILLET c BLACK c EMBROIDERY c FROG c TRIPOD c DRUM
  c RAT c NOSE c EVEN c TOOTH c DRAGON c TURTLE c FLUTE a+1b IDEOGRAPHIC DESCRIPTION CHARACTER LEFT
  TO RIGHT d ABOVE TO BELOW d LEFT TO MIDDLE AND RIGHT d ABOVE TO MIDDLE AND BELOW d FULL SURROUND
  d SURROUND FROM ABOVE f BELOW f LEFT f UPPER LEFT g RIGHT f LOWER LEFT d OVERLAID b+5 SPACE b
  COMMA b FULL STOP a DITTO MARK a JAPANESE INDUSTRIAL STANDARD SYMBOL a IDEOGRAPHIC ITERATION MARK
  b CLOSING MARK b NUMBER ZERO a LEFT ANGLE BRACKET a RIGHT ANGLE BRACKET a LEFT DOUBLE ANGLE
  BRACKET a RIGHT DOUBLE ANGLE BRACKET a LEFT CORNER BRACKET a RIGHT CORNER BRACKET a LEFT WHITE
  CORNER BRACKET a RIGHT WHITE CORNER BRACKET a LEFT BLACK LENTICULAR BRACKET a RIGHT BLACK
  LENTICULAR BRACKET a POSTAL MARK a GETA MARK a LEFT TORTOISE SHELL BRACKET a RIGHT TORTOISE SHELL
  BRACKET a LEFT WHITE LENTICULAR BRACKET a RIGHT WHITE LENTICULAR BRACKET a LEFT WHITE TORTOISE
  SHELL BRACKET a RIGHT WHITE TORTOISE SHELL BRACKET a LEFT WHITE SQUARE BRACKET a RIGHT WHITE
  SQUARE BRACKET a WAVE DASH a REVERSED DOUBLE PRIME QUOTATION MARK a DOUBLE PRIME QUOTATION MARK a
  LOW DOUBLE PRIME QUOTATION MARK a POSTAL MARK FACE a HANGZHOU NUMERAL ONE c TWO c THREE c FOUR c
  FIVE c SIX c SEVEN c EIGHT c NINE a IDEOGRAPHIC LEVEL TONE MARK b RISING TONE MARK b DEPARTING
  TONE MARK b ENTERING TONE MARK a HANGUL SINGLE DOT TONE MARK b DOUBLE DOT TONE MARK a WAVY DASH a
  VERTICAL KANA REPEAT MARK d WITH VOICED SOUND MARK d MARK UPPER HALF d WITH VOICED SOUND MARK
  UPPER HALF d MARK LOWER HALF a CIRCLED POSTAL MARK a IDEOGRAPHIC TELEGRAPH LINE FEED SEPARATOR
  SYMBOL a HANGZHOU NUMERAL TEN c TWENTY c THIRTY a VERTICAL IDEOGRAPHIC ITERATION MARK a MASU MARK
  a PART ALTERNATION MARK a IDEOGRAPHIC VARIATION INDICATOR b HALF FILL SPACE a+2 HIRAGANA LETTER
  SMALL A c A c SMALL I c I c SMALL U c U c SMALL E c E c SMALL O c O c KA c GA c KI c GI c KU c GU
  c KE c GE c KO c GO c SA c ZA c SI c ZI c SU c ZU c SE c ZE c SO c ZO c TA c DA c TI c DI c SMALL
  TU c TU c DU c TE c DE c TO c DO c NA c NI c NU c NE c NO c HA c BA c PA c HI c BI c PI c HU c BU
  c PU c HE c BE c PE c HO c BO c PO c MA c MI c MU c ME c MO c SMALL YA c YA c SMALL YU c YU c
  SMALL YO c YO c RA c RI c RU c RE c RO c SMALL WA c WA c WI c WE c WO c N c VU c SMALL KA d KE
  a+3 COMBINING KATAKANA-HIRAGANA VOICED SOUND MARK c SEMI-VOICED SOUND MARK a KATAKANA-HIRAGANA
  VOICED SOUND MARK b SEMI-VOICED SOUND MARK a HIRAGANA ITERATION MARK b VOICED ITERATION MARK b
  DIGRAPH YORI a KATAKANA-HIRAGANA DOUBLE HYPHEN a KATAKANA LETTER SMALL A c A c SMALL I c I c
  SMALL U c U c SMALL E c E c SMALL O c O c KA c GA c KI c GI c KU c GU c KE c GE c KO c GO c SA c
  ZA c SI c ZI c SU c ZU c SE c ZE c SO c ZO c TA c DA c TI c DI c SMALL TU c TU c DU c TE c DE c
  TO c DO c NA c NI c NU c NE c NO c HA c BA c PA c HI c BI c PI c HU c BU c PU c HE c BE c PE c HO
  c BO c PO c MA c MI c MU c ME c MO c SMALL YA c YA c SMALL YU c YU c SMALL YO c YO c RA c RI c RU
  c RE c RO c SMALL WA c WA c WI c WE c WO c N c VU c SMALL KA d KE c VA c VI c VE c VO b MIDDLE
  DOT a KATAKANA-HIRAGANA PROLONGED SOUND MARK a KATAKANA ITERATION MARK b VOICED ITERATION MARK b
  DIGRAPH KOTO a+6 BOPOMOFO LETTER B c P c M c F c D c T c N c L c G c K c H c J c Q c X c ZH c CH
  c SH c R c Z c C c S c A c O c E c EH c AI c EI c AU c OU c AN c EN c ANG c ENG c ER c I c U c IU
  c V c NG c GN c IH c O WITH DOT ABOVE c NN a+2 HANGUL LETTER KIYEOK c SSANGKIYEOK c KIYEOK-SIOS c
  NIEUN c NIEUN-CIEUC c NIEUN-HIEUH c TIKEUT c SSANGTIKEUT c RIEUL c RIEUL-KIYEOK c RIEUL-MIEUM c
  RIEUL-PIEUP c RIEUL-SIOS c RIEUL-THIEUTH c RIEUL-PHIEUPH c RIEUL-HIEUH c MIEUM c PIEUP c
  SSANGPIEUP c PIEUP-SIOS c SIOS c SSANGSIOS c IEUNG c CIEUC c SSANGCIEUC c CHIEUCH c KHIEUKH c
  THIEUTH c PHIEUPH c HIEUH c A c AE c YA c YAE c EO c E c YEO c YE c O c WA c WAE c OE c YO c U c
  WEO c WE c WI c YU c EU c YI c I b FILLER b LETTER SSANGNIEUN c NIEUN-TIKEUT c NIEUN-SIOS c
  NIEUN-PANSIOS c RIEUL-KIYEOK-SIOS c RIEUL-TIKEUT c RIEUL-PIEUP-SIOS c RIEUL-PANSIOS c
  RIEUL-YEORINHIEUH c MIEUM-PIEUP c MIEUM-SIOS c MIEUM-PANSIOS c KAPYEOUNMIEUM c PIEUP-KIYEOK c
  PIEUP-TIKEUT c PIEUP-SIOS-KIYEOK c PIEUP-SIOS-TIKEUT c PIEUP-CIEUC c PIEUP-THIEUTH c
  KAPYEOUNPIEUP c KAPYEOUNSSANGPIEUP c SIOS-KIYEOK c SIOS-NIEUN c SIOS-TIKEUT c SIOS-PIEUP c
  SIOS-CIEUC c PANSIOS c SSANGIEUNG c YESIEUNG c YESIEUNG-SIOS c YESIEUNG-PANSIOS c KAPYEOUNPHIEUPH
  c SSANGHIEUH c YEORINHIEUH c YO-YA c YO-YAE c YO-I c YU-YEO c YU-YE c YU-I c ARAEA c ARAEAE a+2
  IDEOGRAPHIC ANNOTATION LINKING MARK c REVERSE MARK c ONE MARK c TWO MARK c THREE MARK c FOUR MARK
  c TOP MARK c MIDDLE MARK c BOTTOM MARK c FIRST MARK c SECOND MARK c THIRD MARK c FOURTH MARK c
  HEAVEN MARK c EARTH MARK c MAN MARK a BOPOMOFO LETTER BU c ZI c JI c GU c EE c ENN c OO c ONN c
  IR c ANN c INN c UNN c IM c NGG c AINN c AUNN c AM c OM c ONG c INNN b FINAL LETTER P d T d K d H
  b LETTER GH c LH c ZY b FINAL LETTER G b LETTER GW c KW c OE c AH a CJK STROKE T c WG c XG c BXG
  c SW c HZZ c HZG c HP c HZWG c SZWG c HZT c HZZP c HPWG c HZW c HZZZ c N c H c S c P c SP c D c
  HZ c HG c SZ c SWZ c ST c SG c PD c PZ c TN c SZZ c SWG c HXWG c HZZZG c PG c Q a+d KATAKANA
  LETTER SMALL KU d SI d SU d TO d NU d HA d HI d HU d HE d HO d MU d RA d RI d RU d RE d RO a
  PARENTHESIZED HANGUL KIYEOK c NIEUN c TIKEUT c RIEUL c MIEUM c PIEUP c SIOS c IEUNG c CIEUC c
  CHIEUCH c KHIEUKH c THIEUTH c PHIEUPH c HIEUH c KIYEOK A c NIEUN A c TIKEUT A c RIEUL A c MIEUM A
  c PIEUP A c SIOS A c IEUNG A c CIEUC A c CHIEUCH A c KHIEUKH A c THIEUTH A c PHIEUPH A c HIEUH A
  c CIEUC U b KOREAN CHARACTER OJEON d O HU b+2 IDEOGRAPH ONE c TWO c THREE c FOUR c FIVE c SIX c
  SEVEN c EIGHT c NINE c TEN c MOON c FIRE c WATER c WOOD c METAL c EARTH c SUN c STOCK c HAVE c
  SOCIETY c NAME c SPECIAL c FINANCIAL c CONGRATULATION c LABOR c REPRESENT c CALL c STUDY c
  SUPERVISE c ENTERPRISE c RESOURCE c ALLIANCE c FESTIVAL c REST c SELF c REACH a CIRCLED IDEOGRAPH
  QUESTION c KINDERGARTEN c SCHOOL c KOTO b NUMBER TEN ON BLACK SQUARE c TWENTY ON BLACK SQUARE c
  THIRTY ON BLACK SQUARE c FORTY ON BLACK SQUARE c FIFTY ON BLACK SQUARE c SIXTY ON BLACK SQUARE c
  SEVENTY ON BLACK SQUARE c EIGHTY ON BLACK SQUARE a PARTNERSHIP SIGN a CIRCLED NUMBER TWENTY ONE d
  TWO d THREE d FOUR d FIVE d SIX d SEVEN d EIGHT d NINE c THIRTY d ONE d TWO d THREE d FOUR d FIVE
  b HANGUL KIYEOK c NIEUN c TIKEUT c RIEUL c MIEUM c PIEUP c SIOS c IEUNG c CIEUC c CHIEUCH c
  KHIEUKH c THIEUTH c PHIEUPH c HIEUH c KIYEOK A c NIEUN A c TIKEUT A c RIEUL A c MIEUM A c PIEUP A
  c SIOS A c IEUNG A c CIEUC A c CHIEUCH A c KHIEUKH A c THIEUTH A c PHIEUPH A c HIEUH A b KOREAN
  CHARACTER CHAMKO d JUEUI b HANGUL IEUNG U a KOREAN STANDARD SYMBOL a CIRCLED IDEOGRAPH ONE c TWO
  c THREE c FOUR c FIVE c SIX c SEVEN c EIGHT c NINE c TEN c MOON c FIRE c WATER c WOOD c METAL c
  EARTH c SUN c STOCK c HAVE c SOCIETY c NAME c SPECIAL c FINANCIAL c CONGRATULATION c LABOR c
  SECRET c MALE c FEMALE c SUITABLE c EXCELLENT c PRINT c ATTENTION c ITEM c REST c COPY c CORRECT
  c HIGH c CENTRE c LOW c LEFT c RIGHT c MEDICINE c RELIGION c STUDY c SUPERVISE c ENTERPRISE c
  RESOURCE c ALLIANCE c NIGHT b NUMBER THIRTY SIX d SEVEN d EIGHT d NINE c FORTY d ONE d TWO d
  THREE d FOUR d FIVE d SIX d SEVEN d EIGHT d NINE c FIFTY a IDEOGRAPHIC TELEGRAPH SYMBOL FOR
  JANUARY e FEBRUARY e MARCH e APRIL e MAY e JUNE e JULY e AUGUST e SEPTEMBER e OCTOBER e NOVEMBER
  e DECEMBER a SQUARE HG b ERG b EV a LIMITED LIABILITY SIGN a CIRCLED KATAKANA A c I c U c E c O c
  KA c KI c KU c KE c KO c SA c SI c SU c SE c SO c TA c TI c TU c TE c TO c NA c NI c NU c NE c NO
  c HA c HI c HU c HE c HO c MA c MI c MU c ME c MO c YA c YU c YO c RA c RI c RU c RE c RO c WA c
  WI c WE c WO a SQUARE ERA NAME REIWA b APAATO b ARUHUA b ANPEA b AARU b ININGU b INTI b UON b
  ESUKUUDO b EEKAA b ONSU b OOMU b KAIRI b KARATTO b KARORII b GARON b GANMA b GIGA b GINII b
  KYURII b GIRUDAA b KIRO b KIROGURAMU b KIROMEETORU b KIROWATTO b GURAMU b GURAMUTON b KURUZEIRO b
  KUROONE b KEESU b KORUNA b KOOPO b SAIKURU b SANTIIMU b SIRINGU b SENTI b SENTO b DAASU b DESI b
  DORU b TON b NANO b NOTTO b HAITU b PAASENTO b PAATU b BAARERU b PIASUTORU b PIKURU b PIKO b BIRU
  b HUARADDO b HUIITO b BUSSYERU b HURAN b HEKUTAARU b PESO b PENIHI b HERUTU b PENSU b PEEZI b
  BEETA b POINTO b BORUTO b HON b PONDO b HOORU b HOON b MAIKURO b MAIRU b MAHHA b MARUKU b MANSYON
  b MIKURON b MIRI b MIRIBAARU b MEGA b MEGATON b MEETORU b YAADO b YAARU b YUAN b RITTORU b RIRA b
  RUPII b RUUBURU b REMU b RENTOGEN b WATTO a IDEOGRAPHIC TELEGRAPH SYMBOL FOR HOUR ZERO f ONE f
  TWO f THREE f FOUR f FIVE f SIX f SEVEN f EIGHT f NINE f TEN f ELEVEN f TWELVE f THIRTEEN f
  FOURTEEN f FIFTEEN f SIXTEEN f SEVENTEEN f EIGHTEEN f NINETEEN f TWENTY f TWENTY-ONE f TWENTY-TWO
  f TWENTY-THREE f TWENTY-FOUR a SQUARE HPA b DA b AU b BAR b OV b PC b DM c SQUARED c CUBED b IU b
  ERA NAME HEISEI d SYOUWA d TAISYOU d MEIZI b CORPORATION b PA AMPS b NA b MU A b MA b KA b KB b
  MB b GB b CAL b KCAL b PF b NF b MU F c G b MG b KG b HZ b KHZ b MHZ b GHZ b THZ b MU L b ML b DL
  b KL b FM b NM b MU M b MM b CM b KM b MM SQUARED b CM SQUARED b M SQUARED b KM SQUARED b MM
  CUBED b CM CUBED b M CUBED b KM CUBED b M OVER S e SQUARED b PA b KPA b MPA b GPA b RAD c OVER S
  e SQUARED b PS b NS b MU S b MS b PV b NV b MU V b MV b KV b MV MEGA b PW b NW b MU W b MW b KW b
  MW MEGA b K OHM b M OHM b AM b BQ b CC b CD b C OVER KG b CO b DB b GY b HA b HP b IN b KK b KM
  CAPITAL b KT b LM b LN b LOG b LX b MB SMALL b MIL b MOL b PH b PM b PPM b PR b SR b SV b WB b V
  OVER M b A OVER M a IDEOGRAPHIC TELEGRAPH SYMBOL FOR DAY ONE f TWO f THREE f FOUR f FIVE f SIX f
  SEVEN f EIGHT f NINE f TEN f ELEVEN f TWELVE f THIRTEEN f FOURTEEN f FIFTEEN f SIXTEEN f
  SEVENTEEN f EIGHTEEN f NINETEEN f TWENTY f TWENTY-ONE f TWENTY-TWO f TWENTY-THREE f TWENTY-FOUR f
  TWENTY-FIVE f TWENTY-SIX f TWENTY-SEVEN f TWENTY-EIGHT f TWENTY-NINE f THIRTY f THIRTY-ONE a
  SQUARE GAL a+19c1 HEXAGRAM FOR THE CREATIVE HEAVEN d RECEPTIVE EARTH c DIFFICULTY AT THE
  BEGINNING c YOUTHFUL FOLLY c WAITING c CONFLICT c THE ARMY c HOLDING TOGETHER c SMALL TAMING c
  TREADING c PEACE c STANDSTILL c FELLOWSHIP c GREAT POSSESSION c MODESTY c ENTHUSIASM c FOLLOWING
  c WORK ON THE DECAYED c APPROACH c CONTEMPLATION c BITING THROUGH c GRACE c SPLITTING APART c
  RETURN c INNOCENCE c GREAT TAMING c MOUTH CORNERS c GREAT PREPONDERANCE c THE ABYSMAL WATER d
  CLINGING FIRE c INFLUENCE c DURATION c RETREAT c GREAT POWER c PROGRESS c DARKENING OF THE LIGHT
  c THE FAMILY c OPPOSITION c OBSTRUCTION c DELIVERANCE c DECREASE c INCREASE c BREAKTHROUGH c
  COMING TO MEET c GATHERING TOGETHER c PUSHING UPWARD c OPPRESSION c THE WELL c REVOLUTION c THE
  CAULDRON d AROUSING THUNDER d KEEPING STILL MOUNTAIN c DEVELOPMENT c THE MARRYING MAIDEN c
  ABUNDANCE c THE WANDERER d GENTLE WIND d JOYOUS LAKE c DISPERSION c LIMITATION c INNER TRUTH c
  SMALL PREPONDERANCE c AFTER COMPLETION c BEFORE COMPLETION a+5201 YI SYLLABLE IT c IX c I c IP c
  IET c IEX c IE c IEP c AT c AX c A c AP c UOX c UO c UOP c OT c OX c O c OP c EX c E c WU c BIT c
  BIX c BI c BIP c BIET c BIEX c BIE c BIEP c BAT c BAX c BA c BAP c BUOX c BUO c BUOP c BOT c BOX
  c BO c BOP c BEX c BE c BEP c BUT c BUX c BU c BUP c BURX c BUR c BYT c BYX c BY c BYP c BYRX c
  BYR c PIT c PIX c PI c PIP c PIEX c PIE c PIEP c PAT c PAX c PA c PAP c PUOX c PUO c PUOP c POT c
  POX c PO c POP c PUT c PUX c PU c PUP c PURX c PUR c PYT c PYX c PY c PYP c PYRX c PYR c BBIT c
  BBIX c BBI c BBIP c BBIET c BBIEX c BBIE c BBIEP c BBAT c BBAX c BBA c BBAP c BBUOX c BBUO c
  BBUOP c BBOT c BBOX c BBO c BBOP c BBEX c BBE c BBEP c BBUT c BBUX c BBU c BBUP c BBURX c BBUR c
  BBYT c BBYX c BBY c BBYP c NBIT c NBIX c NBI c NBIP c NBIEX c NBIE c NBIEP c NBAT c NBAX c NBA c
  NBAP c NBOT c NBOX c NBO c NBOP c NBUT c NBUX c NBU c NBUP c NBURX c NBUR c NBYT c NBYX c NBY c
  NBYP c NBYRX c NBYR c HMIT c HMIX c HMI c HMIP c HMIEX c HMIE c HMIEP c HMAT c HMAX c HMA c HMAP
  c HMUOX c HMUO c HMUOP c HMOT c HMOX c HMO c HMOP c HMUT c HMUX c HMU c HMUP c HMURX c HMUR c
  HMYX c HMY c HMYP c HMYRX c HMYR c MIT c MIX c MI c MIP c MIEX c MIE c MIEP c MAT c MAX c MA c
  MAP c MUOT c MUOX c MUO c MUOP c MOT c MOX c MO c MOP c MEX c ME c MUT c MUX c MU c MUP c MURX c
  MUR c MYT c MYX c MY c MYP c FIT c FIX c FI c FIP c FAT c FAX c FA c FAP c FOX c FO c FOP c FUT c
  FUX c FU c FUP c FURX c FUR c FYT c FYX c FY c FYP c VIT c VIX c VI c VIP c VIET c VIEX c VIE c
  VIEP c VAT c VAX c VA c VAP c VOT c VOX c VO c VOP c VEX c VEP c VUT c VUX c VU c VUP c VURX c
  VUR c VYT c VYX c VY c VYP c VYRX c VYR c DIT c DIX c DI c DIP c DIEX c DIE c DIEP c DAT c DAX c
  DA c DAP c DUOX c DUO c DOT c DOX c DO c DOP c DEX c DE c DEP c DUT c DUX c DU c DUP c DURX c DUR
  c TIT c TIX c TI c TIP c TIEX c TIE c TIEP c TAT c TAX c TA c TAP c TUOT c TUOX c TUO c TUOP c
  TOT c TOX c TO c TOP c TEX c TE c TEP c TUT c TUX c TU c TUP c TURX c TUR c DDIT c DDIX c DDI c
  DDIP c DDIEX c DDIE c DDIEP c DDAT c DDAX c DDA c DDAP c DDUOX c DDUO c DDUOP c DDOT c DDOX c DDO
  c DDOP c DDEX c DDE c DDEP c DDUT c DDUX c DDU c DDUP c DDURX c DDUR c NDIT c NDIX c NDI c NDIP c
  NDIEX c NDIE c NDAT c NDAX c NDA c NDAP c NDOT c NDOX c NDO c NDOP c NDEX c NDE c NDEP c NDUT c
  NDUX c NDU c NDUP c NDURX c NDUR c HNIT c HNIX c HNI c HNIP c HNIET c HNIEX c HNIE c HNIEP c HNAT
  c HNAX c HNA c HNAP c HNUOX c HNUO c HNOT c HNOX c HNOP c HNEX c HNE c HNEP c HNUT c NIT c NIX c
  NI c NIP c NIEX c NIE c NIEP c NAX c NA c NAP c NUOX c NUO c NUOP c NOT c NOX c NO c NOP c NEX c
  NE c NEP c NUT c NUX c NU c NUP c NURX c NUR c HLIT c HLIX c HLI c HLIP c HLIEX c HLIE c HLIEP c
  HLAT c HLAX c HLA c HLAP c HLUOX c HLUO c HLUOP c HLOX c HLO c HLOP c HLEX c HLE c HLEP c HLUT c
  HLUX c HLU c HLUP c HLURX c HLUR c HLYT c HLYX c HLY c HLYP c HLYRX c HLYR c LIT c LIX c LI c LIP
  c LIET c LIEX c LIE c LIEP c LAT c LAX c LA c LAP c LUOT c LUOX c LUO c LUOP c LOT c LOX c LO c
  LOP c LEX c LE c LEP c LUT c LUX c LU c LUP c LURX c LUR c LYT c LYX c LY c LYP c LYRX c LYR c
  GIT c GIX c GI c GIP c GIET c GIEX c GIE c GIEP c GAT c GAX c GA c GAP c GUOT c GUOX c GUO c GUOP
  c GOT c GOX c GO c GOP c GET c GEX c GE c GEP c GUT c GUX c GU c GUP c GURX c GUR c KIT c KIX c
  KI c KIP c KIEX c KIE c KIEP c KAT c KAX c KA c KAP c KUOX c KUO c KUOP c KOT c KOX c KO c KOP c
  KET c KEX c KE c KEP c KUT c KUX c KU c KUP c KURX c KUR c GGIT c GGIX c GGI c GGIEX c GGIE c
  GGIEP c GGAT c GGAX c GGA c GGAP c GGUOT c GGUOX c GGUO c GGUOP c GGOT c GGOX c GGO c GGOP c GGET
  c GGEX c GGE c GGEP c GGUT c GGUX c GGU c GGUP c GGURX c GGUR c MGIEX c MGIE c MGAT c MGAX c MGA
  c MGAP c MGUOX c MGUO c MGUOP c MGOT c MGOX c MGO c MGOP c MGEX c MGE c MGEP c MGUT c MGUX c MGU
  c MGUP c MGURX c MGUR c HXIT c HXIX c HXI c HXIP c HXIET c HXIEX c HXIE c HXIEP c HXAT c HXAX c
  HXA c HXAP c HXUOT c HXUOX c HXUO c HXUOP c HXOT c HXOX c HXO c HXOP c HXEX c HXE c HXEP c NGIEX
  c NGIE c NGIEP c NGAT c NGAX c NGA c NGAP c NGUOT c NGUOX c NGUO c NGOT c NGOX c NGO c NGOP c
  NGEX c NGE c NGEP c HIT c HIEX c HIE c HAT c HAX c HA c HAP c HUOT c HUOX c HUO c HUOP c HOT c
  HOX c HO c HOP c HEX c HE c HEP c WAT c WAX c WA c WAP c WUOX c WUO c WUOP c WOX c WO c WOP c WEX
  c WE c WEP c ZIT c ZIX c ZI c ZIP c ZIEX c ZIE c ZIEP c ZAT c ZAX c ZA c ZAP c ZUOX c ZUO c ZUOP
  c ZOT c ZOX c ZO c ZOP c ZEX c ZE c ZEP c ZUT c ZUX c ZU c ZUP c ZURX c ZUR c ZYT c ZYX c ZY c
  ZYP c ZYRX c ZYR c CIT c CIX c CI c CIP c CIET c CIEX c CIE c CIEP c CAT c CAX c CA c CAP c CUOX
  c CUO c CUOP c COT c COX c CO c COP c CEX c CE c CEP c CUT c CUX c CU c CUP c CURX c CUR c CYT c
  CYX c CY c CYP c CYRX c CYR c ZZIT c ZZIX c ZZI c ZZIP c ZZIET c ZZIEX c ZZIE c ZZIEP c ZZAT c
  ZZAX c ZZA c ZZAP c ZZOX c ZZO c ZZOP c ZZEX c ZZE c ZZEP c ZZUX c ZZU c ZZUP c ZZURX c ZZUR c
  ZZYT c ZZYX c ZZY c ZZYP c ZZYRX c ZZYR c NZIT c NZIX c NZI c NZIP c NZIEX c NZIE c NZIEP c NZAT
  c NZAX c NZA c NZAP c NZUOX c NZUO c NZOX c NZOP c NZEX c NZE c NZUX c NZU c NZUP c NZURX c NZUR
  c NZYT c NZYX c NZY c NZYP c NZYRX c NZYR c SIT c SIX c SI c SIP c SIEX c SIE c SIEP c SAT c SAX
  c SA c SAP c SUOX c SUO c SUOP c SOT c SOX c SO c SOP c SEX c SE c SEP c SUT c SUX c SU c SUP c
  SURX c SUR c SYT c SYX c SY c SYP c SYRX c SYR c SSIT c SSIX c SSI c SSIP c SSIEX c SSIE c SSIEP
  c SSAT c SSAX c SSA c SSAP c SSOT c SSOX c SSO c SSOP c SSEX c SSE c SSEP c SSUT c SSUX c SSU c
  SSUP c SSYT c SSYX c SSY c SSYP c SSYRX c SSYR c ZHAT c ZHAX c ZHA c ZHAP c ZHUOX c ZHUO c ZHUOP
  c ZHOT c ZHOX c ZHO c ZHOP c ZHET c ZHEX c ZHE c ZHEP c ZHUT c ZHUX c ZHU c ZHUP c ZHURX c ZHUR c
  ZHYT c ZHYX c ZHY c ZHYP c ZHYRX c ZHYR c CHAT c CHAX c CHA c CHAP c CHUOT c CHUOX c CHUO c CHUOP
  c CHOT c CHOX c CHO c CHOP c CHET c CHEX c CHE c CHEP c CHUX c CHU c CHUP c CHURX c CHUR c CHYT c
  CHYX c CHY c CHYP c CHYRX c CHYR c RRAX c RRA c RRUOX c RRUO c RROT c RROX c RRO c RROP c RRET c
  RREX c RRE c RREP c RRUT c RRUX c RRU c RRUP c RRURX c RRUR c RRYT c RRYX c RRY c RRYP c RRYRX c
  RRYR c NRAT c NRAX c NRA c NRAP c NROX c NRO c NROP c NRET c NREX c NRE c NREP c NRUT c NRUX c
  NRU c NRUP c NRURX c NRUR c NRYT c NRYX c NRY c NRYP c NRYRX c NRYR c SHAT c SHAX c SHA c SHAP c
  SHUOX c SHUO c SHUOP c SHOT c SHOX c SHO c SHOP c SHET c SHEX c SHE c SHEP c SHUT c SHUX c SHU c
  SHUP c SHURX c SHUR c SHYT c SHYX c SHY c SHYP c SHYRX c SHYR c RAT c RAX c RA c RAP c RUOX c RUO
  c RUOP c ROT c ROX c RO c ROP c REX c RE c REP c RUT c RUX c RU c RUP c RURX c RUR c RYT c RYX c
  RY c RYP c RYRX c RYR c JIT c JIX c JI c JIP c JIET c JIEX c JIE c JIEP c JUOT c JUOX c JUO c
  JUOP c JOT c JOX c JO c JOP c JUT c JUX c JU c JUP c JURX c JUR c JYT c JYX c JY c JYP c JYRX c
  JYR c QIT c QIX c QI c QIP c QIET c QIEX c QIE c QIEP c QUOT c QUOX c QUO c QUOP c QOT c QOX c QO
  c QOP c QUT c QUX c QU c QUP c QURX c QUR c QYT c QYX c QY c QYP c QYRX c QYR c JJIT c JJIX c JJI
  c JJIP c JJIET c JJIEX c JJIE c JJIEP c JJUOX c JJUO c JJUOP c JJOT c JJOX c JJO c JJOP c JJUT c
  JJUX c JJU c JJUP c JJURX c JJUR c JJYT c JJYX c JJY c JJYP c NJIT c NJIX c NJI c NJIP c NJIET c
  NJIEX c NJIE c NJIEP c NJUOX c NJUO c NJOT c NJOX c NJO c NJOP c NJUX c NJU c NJUP c NJURX c NJUR
  c NJYT c NJYX c NJY c NJYP c NJYRX c NJYR c NYIT c NYIX c NYI c NYIP c NYIET c NYIEX c NYIE c
  NYIEP c NYUOX c NYUO c NYUOP c NYOT c NYOX c NYO c NYOP c NYUT c NYUX c NYU c NYUP c XIT c XIX c
  XI c XIP c XIET c XIEX c XIE c XIEP c XUOX c XUO c XOT c XOX c XO c XOP c XYT c XYX c XY c XYP c
  XYRX c XYR c YIT c YIX c YI c YIP c YIET c YIEX c YIE c YIEP c YUOT c YUOX c YUO c YUOP c YOT c
  YOX c YO c YOP c YUT c YUX c YU c YUP c YURX c YUR c YYT c YYX c YY c YYP c YYRX c YYR b+4
  RADICAL QOT c LI c KIT c NYIP c CYP c SSI c GGOP c GEP c MI c HXIT c LYR c BBUT c MOP c YO c PUT
  c HXUO c TAT c GA c ZUP c CYT c DDUR c BUR c GGUO c NYOP c TU c OP c JJUT c ZOT c PYT c HMO c YIT
  c VUR c SHY c VEP c ZA c JO c NZUP c JJY c GOT c JJIE c WO c DU c SHUR c LIE c CY c CUOP c CIP c
  HXOP c SHAT c ZUR c SHOP c CHE c ZZIET c NBIE c KE a+a LISU LETTER BA c PA c PHA c DA c TA c THA
  c GA c KA c KHA c JA c CA c CHA c DZA c TSA c TSHA c MA c NA c LA c SA c ZHA c ZA c NGA c HA c XA
  c HHA c FA c WA c SHA c YA c GHA c A c AE c E c EU c I c O c U c UE c UH c OE c TONE MYA TI d NA
  PO d MYA CYA e BO e NA e JEU b PUNCTUATION COMMA c FULL STOP a VAI SYLLABLE EE c EEN c HEE c WEE
  c WEEN c PEE c BHEE c BEE c MBEE c KPEE c MGBEE c GBEE c FEE c VEE c TEE c THEE c DHEE c DHHEE c
  LEE c REE c DEE c NDEE c SEE c SHEE c ZEE c ZHEE c CEE c JEE c NJEE c YEE c KEE c NGGEE c GEE c
  MEE c NEE c NYEE c I c IN c HI c HIN c WI c WIN c PI c BHI c BI c MBI c KPI c MGBI c GBI c FI c
  VI c TI c THI c DHI c DHHI c LI c RI c DI c NDI c SI c SHI c ZI c ZHI c CI c JI c NJI c YI c KI c
  NGGI c GI c MI c NI c NYI c A c AN c NGAN c HA c HAN c WA c WAN c PA c BHA c BA c MBA c KPA c
  KPAN c MGBA c GBA c FA c VA c TA c THA c DHA c DHHA c LA c RA c DA c NDA c SA c SHA c ZA c ZHA c
  CA c JA c NJA c YA c KA c KAN c NGGA c GA c MA c NA c NYA c OO c OON c HOO c WOO c WOON c POO c
  BHOO c BOO c MBOO c KPOO c MGBOO c GBOO c FOO c VOO c TOO c THOO c DHOO c DHHOO c LOO c ROO c DOO
  c NDOO c SOO c SHOO c ZOO c ZHOO c COO c JOO c NJOO c YOO c KOO c NGGOO c GOO c MOO c NOO c NYOO
  c U c UN c HU c HUN c WU c WUN c PU c BHU c BU c MBU c KPU c MGBU c GBU c FU c VU c TU c THU c
  DHU c DHHU c LU c RU c DU c NDU c SU c SHU c ZU c ZHU c CU c JU c NJU c YU c KU c NGGU c GU c MU
  c NU c NYU c O c ON c NGON c HO c HON c WO c WON c PO c BHO c BO c MBO c KPO c MGBO c GBO c GBON
  c FO c VO c TO c THO c DHO c DHHO c LO c RO c DO c NDO c SO c SHO c ZO c ZHO c CO c JO c NJO c YO
  c KO c NGGO c GO c MO c NO c NYO c E c EN c NGEN c HE c HEN c WE c WEN c PE c BHE c BE c MBE c
  KPE c KPEN c MGBE c GBE c GBEN c FE c VE c TE c THE c DHE c DHHE c LE c RE c DE c NDE c SE c SHE
  c ZE c ZHE c CE c JE c NJE c YE c KE c NGGE c NGGEN c GE c GEN c ME c NE c NYE c NG c LENGTHENER
  b COMMA b FULL STOP b QUESTION MARK b SYLLABLE NDOLE FA d KA d SOO b SYMBOL FEENG c KEENG c TING
  c NII c BANG c FAA c TAA c DANG c DOONG c KUNG c TONG c DO-O c JONG b DIGIT ZERO c ONE c TWO c
  THREE c FOUR c FIVE c SIX c SEVEN c EIGHT c NINE b SYLLABLE NDOLE MA d DO a+15 CYRILLIC CAPITAL
  LETTER ZEMLYA b SMALL LETTER ZEMLYA b CAPITAL LETTER DZELO b SMALL LETTER DZELO b CAPITAL LETTER
  REVERSED DZE b SMALL LETTER REVERSED DZE b CAPITAL LETTER IOTA b SMALL LETTER IOTA b CAPITAL
  LETTER DJERV b SMALL LETTER DJERV b CAPITAL LETTER MONOGRAPH UK b SMALL LETTER MONOGRAPH UK b
  CAPITAL LETTER BROAD OMEGA b SMALL LETTER BROAD OMEGA b CAPITAL LETTER NEUTRAL YER b SMALL LETTER
  NEUTRAL YER b CAPITAL LETTER YERU WITH BACK YER b SMALL LETTER YERU WITH BACK YER b CAPITAL
  LETTER IOTIFIED YAT b SMALL LETTER IOTIFIED YAT b CAPITAL LETTER REVERSED YU b SMALL LETTER
  REVERSED YU b CAPITAL LETTER IOTIFIED A b SMALL LETTER IOTIFIED A b CAPITAL LETTER CLOSED LITTLE
  YUS b SMALL LETTER CLOSED LITTLE YUS b CAPITAL LETTER BLENDED YUS b SMALL LETTER BLENDED YUS b
  CAPITAL LETTER IOTIFIED CLOSED LITTLE YUS b SMALL LETTER IOTIFIED CLOSED LITTLE YUS b CAPITAL
  LETTER YN b SMALL LETTER YN b CAPITAL LETTER REVERSED TSE b SMALL LETTER REVERSED TSE b CAPITAL
  LETTER SOFT DE b SMALL LETTER SOFT DE b CAPITAL LETTER SOFT EL b SMALL LETTER SOFT EL b CAPITAL
  LETTER SOFT EM b SMALL LETTER SOFT EM b CAPITAL LETTER MONOCULAR O b SMALL LETTER MONOCULAR O b
  CAPITAL LETTER BINOCULAR O b SMALL LETTER BINOCULAR O b CAPITAL LETTER DOUBLE MONOCULAR O b SMALL
  LETTER DOUBLE MONOCULAR O b LETTER MULTIOCULAR O a COMBINING CYRILLIC VZMET c TEN MILLIONS SIGN c
  HUNDRED MILLIONS SIGN c THOUSAND MILLIONS SIGN a SLAVONIC ASTERISK a COMBINING CYRILLIC LETTER
  UKRAINIAN IE d I d YI d U d HARD SIGN d YERU d SOFT SIGN d OMEGA c KAVYKA c PAYEROK a CYRILLIC
  KAVYKA b PAYEROK b CAPITAL LETTER DWE b SMALL LETTER DWE b CAPITAL LETTER DZWE b SMALL LETTER
  DZWE b CAPITAL LETTER ZHWE b SMALL LETTER ZHWE b CAPITAL LETTER CCHE b SMALL LETTER CCHE b
  CAPITAL LETTER DZZE b SMALL LETTER DZZE b CAPITAL LETTER TE WITH MIDDLE HOOK b SMALL LETTER TE
  WITH MIDDLE HOOK b CAPITAL LETTER TWE b SMALL LETTER TWE b CAPITAL LETTER TSWE b SMALL LETTER
  TSWE b CAPITAL LETTER TSSE b SMALL LETTER TSSE b CAPITAL LETTER TCHE b SMALL LETTER TCHE b
  CAPITAL LETTER HWE b SMALL LETTER HWE b CAPITAL LETTER SHWE b SMALL LETTER SHWE b CAPITAL LETTER
  DOUBLE O b SMALL LETTER DOUBLE O b CAPITAL LETTER CROSSED O b SMALL LETTER CROSSED O a MODIFIER
  LETTER CYRILLIC HARD SIGN d SOFT SIGN a COMBINING CYRILLIC LETTER EF d IOTIFIED E a BAMUM LETTER
  A c KA c U c KU c EE c REE c TAE c O c NYI c I c LA c PA c RII c RIEE c LEEEE c MEEEE c TAA c
  NDAA c NJAEM c M c SUU c MU c SHII c SI c SHEUX c SEUX c KYEE c KET c NUAE c NU c NJUAE c YOQ c
  SHU c YUQ c YA c NSHA c KEUX c PEUX c NJEE c NTEE c PUE c WUE c PEE c FEE c RU c LU c MI c NI c
  REUX c RAE c KEN c NGKWAEN c NGGA c NGA c SHO c PUAE c FU c FOM c WA c NA c LI c PI c LOQ c KO c
  MBEN c REN c MEN c MA c TI c KI c MO c MBAA c TET c KPA c TEN c NTUU c SAMBA c FAAMAE c KOVUU c
  KOGHOM b COMBINING MARK KOQNDON d TUKWENTIS b NJAEMLI b FULL STOP b COLON b COMMA b SEMICOLON b
  QUESTION MARK a+9 MODIFIER LETTER CHINESE TONE YIN PING e YANG PING e YIN SHANG e YANG SHANG e
  YIN QU e YANG QU e YIN RU e YANG RU c EXTRA-HIGH DOTTED TONE BAR c HIGH DOTTED TONE BAR c MID
  DOTTED TONE BAR c LOW DOTTED TONE BAR c EXTRA-LOW DOTTED TONE BAR c EXTRA-HIGH DOTTED LEFT-STEM
  TONE BAR c HIGH DOTTED LEFT-STEM TONE BAR c MID DOTTED LEFT-STEM TONE BAR c LOW DOTTED LEFT-STEM
  TONE BAR c EXTRA-LOW DOTTED LEFT-STEM TONE BAR c EXTRA-HIGH LEFT-STEM TONE BAR c HIGH LEFT-STEM
  TONE BAR c MID LEFT-STEM TONE BAR c LOW LEFT-STEM TONE BAR c EXTRA-LOW LEFT-STEM TONE BAR c DOT
  VERTICAL BAR d SLASH d HORIZONTAL BAR c LOWER RIGHT CORNER ANGLE c RAISED UP ARROW d DOWN ARROW d
  EXCLAMATION MARK d INVERTED EXCLAMATION MARK c LOW INVERTED EXCLAMATION MARK c STRESS AND HIGH
  TONE e LOW TONE a LATIN CAPITAL LETTER EGYPTOLOGICAL ALEF b SMALL LETTER EGYPTOLOGICAL ALEF b
  CAPITAL LETTER EGYPTOLOGICAL AIN b SMALL LETTER EGYPTOLOGICAL AIN b CAPITAL LETTER HENG b SMALL
  LETTER HENG b CAPITAL LETTER TZ b SMALL LETTER TZ b CAPITAL LETTER TRESILLO b SMALL LETTER
  TRESILLO b CAPITAL LETTER CUATRILLO b SMALL LETTER CUATRILLO b CAPITAL LETTER CUATRILLO WITH
  COMMA b SMALL LETTER CUATRILLO WITH COMMA b LETTER SMALL CAPITAL F e S b CAPITAL LETTER AA b
  SMALL LETTER AA b CAPITAL LETTER AO b SMALL LETTER AO b CAPITAL LETTER AU b SMALL LETTER AU b
  CAPITAL LETTER AV b SMALL LETTER AV b CAPITAL LETTER AV WITH HORIZONTAL BAR b SMALL LETTER AV
  WITH HORIZONTAL BAR b CAPITAL LETTER AY b SMALL LETTER AY b CAPITAL LETTER REVERSED C WITH DOT b
  SMALL LETTER REVERSED C WITH DOT b CAPITAL LETTER K WITH STROKE b SMALL LETTER K WITH STROKE b
  CAPITAL LETTER K WITH DIAGONAL STROKE b SMALL LETTER K WITH DIAGONAL STROKE b CAPITAL LETTER K
  WITH STROKE AND DIAGONAL STROKE b SMALL LETTER K WITH STROKE AND DIAGONAL STROKE b CAPITAL LETTER
  BROKEN L b SMALL LETTER BROKEN L b CAPITAL LETTER L WITH HIGH STROKE b SMALL LETTER L WITH HIGH
  STROKE b CAPITAL LETTER O WITH LONG STROKE OVERLAY b SMALL LETTER O WITH LONG STROKE OVERLAY b
  CAPITAL LETTER O WITH LOOP b SMALL LETTER O WITH LOOP b CAPITAL LETTER OO b SMALL LETTER OO b
  CAPITAL LETTER P WITH STROKE THROUGH DESCENDER b SMALL LETTER P WITH STROKE THROUGH DESCENDER b
  CAPITAL LETTER P WITH FLOURISH b SMALL LETTER P WITH FLOURISH b CAPITAL LETTER P WITH SQUIRREL
  TAIL b SMALL LETTER P WITH SQUIRREL TAIL b CAPITAL LETTER Q WITH STROKE THROUGH DESCENDER b SMALL
  LETTER Q WITH STROKE THROUGH DESCENDER b CAPITAL LETTER Q WITH DIAGONAL STROKE b SMALL LETTER Q
  WITH DIAGONAL STROKE b CAPITAL LETTER R ROTUNDA b SMALL LETTER R ROTUNDA b CAPITAL LETTER RUM
  ROTUNDA b SMALL LETTER RUM ROTUNDA b CAPITAL LETTER V WITH DIAGONAL STROKE b SMALL LETTER V WITH
  DIAGONAL STROKE b CAPITAL LETTER VY b SMALL LETTER VY b CAPITAL LETTER VISIGOTHIC Z b SMALL
  LETTER VISIGOTHIC Z b CAPITAL LETTER THORN WITH STROKE b SMALL LETTER THORN WITH STROKE b CAPITAL
  LETTER THORN WITH STROKE THROUGH DESCENDER b SMALL LETTER THORN WITH STROKE THROUGH DESCENDER b
  CAPITAL LETTER VEND b SMALL LETTER VEND b CAPITAL LETTER ET b SMALL LETTER ET b CAPITAL LETTER IS
  b SMALL LETTER IS b CAPITAL LETTER CON b SMALL LETTER CON a MODIFIER LETTER US a LATIN SMALL
  LETTER DUM d LUM d MUM d NUM d RUM b LETTER SMALL CAPITAL RUM b SMALL LETTER TUM d UM b CAPITAL
  LETTER INSULAR D b SMALL LETTER INSULAR D b CAPITAL LETTER INSULAR F b SMALL LETTER INSULAR F b
  CAPITAL LETTER INSULAR G d TURNED INSULAR G b SMALL LETTER TURNED INSULAR G b CAPITAL LETTER
  TURNED L b SMALL LETTER TURNED L b CAPITAL LETTER INSULAR R b SMALL LETTER INSULAR R b CAPITAL
  LETTER INSULAR S b SMALL LETTER INSULAR S b CAPITAL LETTER INSULAR T b SMALL LETTER INSULAR T a
  MODIFIER LETTER LOW CIRCUMFLEX ACCENT c COLON c SHORT EQUALS SIGN a LATIN CAPITAL LETTER SALTILLO
  b SMALL LETTER SALTILLO b CAPITAL LETTER TURNED H b SMALL LETTER L WITH RETROFLEX HOOK AND BELT b
  LETTER SINOLOGICAL DOT b CAPITAL LETTER N WITH DESCENDER b SMALL LETTER N WITH DESCENDER b
  CAPITAL LETTER C WITH BAR b SMALL LETTER C WITH BAR f PALATAL HOOK d H WITH PALATAL HOOK b
  CAPITAL LETTER B WITH FLOURISH b SMALL LETTER B WITH FLOURISH b CAPITAL LETTER F WITH STROKE b
  SMALL LETTER F WITH STROKE b CAPITAL LETTER VOLAPUK AE b SMALL LETTER VOLAPUK AE b CAPITAL LETTER
  VOLAPUK OE b SMALL LETTER VOLAPUK OE b CAPITAL LETTER VOLAPUK UE b SMALL LETTER VOLAPUK UE b
  CAPITAL LETTER G WITH OBLIQUE STROKE b SMALL LETTER G WITH OBLIQUE STROKE b CAPITAL LETTER K WITH
  OBLIQUE STROKE b SMALL LETTER K WITH OBLIQUE STROKE b CAPITAL LETTER N WITH OBLIQUE STROKE b
  SMALL LETTER N WITH OBLIQUE STROKE b CAPITAL LETTER R WITH OBLIQUE STROKE b SMALL LETTER R WITH
  OBLIQUE STROKE b CAPITAL LETTER S WITH OBLIQUE STROKE b SMALL LETTER S WITH OBLIQUE STROKE b
  CAPITAL LETTER H WITH HOOK d REVERSED OPEN E d SCRIPT G d L WITH BELT d SMALL CAPITAL I b LETTER
  SMALL CAPITAL Q b CAPITAL LETTER TURNED K e T d J WITH CROSSED-TAIL d CHI d BETA b SMALL LETTER
  BETA b CAPITAL LETTER OMEGA b SMALL LETTER OMEGA b CAPITAL LETTER U WITH STROKE b SMALL LETTER U
  WITH STROKE b CAPITAL LETTER GLOTTAL A b SMALL LETTER GLOTTAL A b CAPITAL LETTER GLOTTAL I b
  SMALL LETTER GLOTTAL I b CAPITAL LETTER GLOTTAL U b SMALL LETTER GLOTTAL U b CAPITAL LETTER OLD
  POLISH O b SMALL LETTER OLD POLISH O b CAPITAL LETTER ANGLICANA W b SMALL LETTER ANGLICANA W b
  CAPITAL LETTER C WITH PALATAL HOOK d S WITH HOOK d Z WITH PALATAL HOOK d D WITH SHORT STROKE
  OVERLAY b SMALL LETTER D WITH SHORT STROKE OVERLAY b CAPITAL LETTER S WITH SHORT STROKE OVERLAY b
  SMALL LETTER S WITH SHORT STROKE OVERLAY b+6 CAPITAL LETTER CLOSED INSULAR G b SMALL LETTER
  CLOSED INSULAR G d+2 DOUBLE THORN e+2 WYNN b CAPITAL LETTER MIDDLE SCOTS S b SMALL LETTER MIDDLE
  SCOTS S b CAPITAL LETTER SIGMOID S b SMALL LETTER SIGMOID S a+19 MODIFIER LETTER CAPITAL C d F d
  Q a LATIN CAPITAL LETTER REVERSED HALF H b SMALL LETTER REVERSED HALF H b EPIGRAPHIC LETTER
  SIDEWAYS I a MODIFIER LETTER CAPITAL H WITH STROKE c SMALL LIGATURE OE a LATIN LETTER SMALL
  CAPITAL TURNED M b EPIGRAPHIC LETTER REVERSED F e P d INVERTED M d I LONGA d ARCHAIC M a SYLOTI
  NAGRI LETTER A d I c SIGN DVISVARA c LETTER U d E d O c SIGN HASANTA c LETTER KO d KHO d GO d GHO
  c SIGN ANUSVARA c LETTER CO d CHO d JO d JHO d TTO d TTHO d DDO d DDHO d TO d THO d DO d DHO d NO
  d PO d PHO d BO d BHO d MO d RO d LO d RRO d SO d HO c VOWEL SIGN A e I e U e E e OO c POETRY
  MARK-1 d MARK-2 d MARK-3 d MARK-4 c SIGN ALTERNATE HASANTA a+4 NORTH INDIC FRACTION ONE QUARTER e
  HALF d THREE QUARTERS d ONE SIXTEENTH e EIGHTH d THREE SIXTEENTHS c QUARTER MARK c PLACEHOLDER
  MARK c RUPEE MARK c QUANTITY MARK a+7 PHAGS-PA LETTER KA c KHA c GA c NGA c CA c CHA c JA c NYA c
  TA c THA c DA c NA c PA c PHA c BA c MA c TSA c TSHA c DZA c WA c ZHA c ZA c SMALL A c YA c RA c
  LA c SHA c SA c HA c A c I c U c E c O c QA c XA c FA c GGA c EE b SUBJOINED LETTER WA d YA b
  LETTER TTA c TTHA c DDA c NNA c ALTERNATE YA c VOICELESS SHA c VOICED HA c ASPIRATED FA b
  SUBJOINED LETTER RA b SUPERFIXED LETTER RA b LETTER CANDRABINDU b SINGLE HEAD MARK b DOUBLE HEAD
  MARK b MARK SHAD c DOUBLE SHAD a+9 SAURASHTRA SIGN ANUSVARA c VISARGA b LETTER A c AA c I c II c
  U c UU c VOCALIC R d RR d L d LL c E c EE c AI c O c OO c AU c KA c KHA c GA c GHA c NGA c CA c
  CHA c JA c JHA c NYA c TTA c TTHA c DDA c DDHA c NNA c TA c THA c DA c DHA c NA c PA c PHA c BA c
  BHA c MA c YA c RA c LA c VA c SHA c SSA c SA c HA c LLA b CONSONANT SIGN HAARU b VOWEL SIGN AA d
  I d II d U d UU d VOCALIC R e RR e L e LL d E d EE d AI d O d OO d AU b SIGN VIRAMA c CANDRABINDU
  b+9 DANDA b DOUBLE DANDA b DIGIT ZERO c ONE c TWO c THREE c FOUR c FIVE c SIX c SEVEN c EIGHT c
  NINE a+7 COMBINING DEVANAGARI DIGIT ZERO d ONE d TWO d THREE d FOUR d FIVE d SIX d SEVEN d EIGHT
  d NINE c LETTER A d U d KA d NA d PA d RA d VI c SIGN AVAGRAHA a DEVANAGARI SIGN SPACING
  CANDRABINDU c CANDRABINDU VIRAMA c DOUBLE CANDRABINDU VIRAMA c CANDRABINDU TWO d THREE d AVAGRAHA
  c PUSHPIKA b GAP FILLER b CARET b HEADSTROKE b SIGN SIDDHAM b JAIN OM b LETTER AY b VOWEL SIGN AY
  a KAYAH LI DIGIT ZERO d ONE d TWO d THREE d FOUR d FIVE d SIX d SEVEN d EIGHT d NINE c LETTER KA
  d KHA d GA d NGA d SA d SHA d ZA d NYA d TA d HTA d NA d PA d PHA d MA d DA d BA d RA d YA d LA d
  WA d THA d HA d VA d CA d A d OE d I d OO c VOWEL UE d E d U d EE d O c TONE PLOPHU d CALYA e
  PLOPHU c SIGN CWI d SHYA a REJANG LETTER KA c GA c NGA c TA c DA c NA c PA c BA c MA c CA c JA c
  NYA c SA c RA c LA c YA c WA c HA c MBA c NGGA c NDA c NYJA c A b VOWEL SIGN I d U d E d AI d O d
  AU d EU d EA b CONSONANT SIGN NG d N d R d H b VIRAMA b+c SECTION MARK a HANGUL CHOSEONG
  TIKEUT-MIEUM c TIKEUT-PIEUP c TIKEUT-SIOS c TIKEUT-CIEUC c RIEUL-KIYEOK c RIEUL-SSANGKIYEOK c
  RIEUL-TIKEUT c RIEUL-SSANGTIKEUT c RIEUL-MIEUM c RIEUL-PIEUP c RIEUL-SSANGPIEUP c
  RIEUL-KAPYEOUNPIEUP c RIEUL-SIOS c RIEUL-CIEUC c RIEUL-KHIEUKH c MIEUM-KIYEOK c MIEUM-TIKEUT c
  MIEUM-SIOS c PIEUP-SIOS-THIEUTH c PIEUP-KHIEUKH c PIEUP-HIEUH c SSANGSIOS-PIEUP c IEUNG-RIEUL c
  IEUNG-HIEUH c SSANGCIEUC-HIEUH c SSANGTHIEUTH c PHIEUPH-HIEUH c HIEUH-SIOS c SSANGYEORINHIEUH a+4
  JAVANESE SIGN PANYANGGA c CECAK c LAYAR c WIGNYAN b LETTER A c I KAWI d c II c U c PA CEREK c NGA
  LELET e RASWADI c E c AI c O c KA d SASAK d MURDA c GA d MURDA c NGA c CA d MURDA c JA c NYA
  MURDA c JA MAHAPRANA c NYA c TTA d MAHAPRANA c DDA d MAHAPRANA c NA MURDA c TA d MURDA c DA d
  MAHAPRANA c NA c PA d MURDA c BA d MURDA c MA c YA c RA d AGUNG c LA c WA c SA MURDA d MAHAPRANA
  d c HA b SIGN CECAK TELU b VOWEL SIGN TARUNG d TOLONG d WULU e MELIK d SUKU e MENDUT d TALING d
  DIRGA MURE d PEPET b CONSONANT SIGN KERET d PENGKAL d CAKRA b PANGKON b LEFT RERENGGAN b RIGHT
  RERENGGAN b PADA ANDAP c MADYA c LUHUR c WINDU c PANGKAT c LINGSA c LUNGSI c ADEG d ADEG c
  PISELEH b TURNED PADA PISELEH b+2 PANGRANGKEP b DIGIT ZERO c ONE c TWO c THREE c FOUR c FIVE c
  SIX c SEVEN c EIGHT c NINE b+5 PADA TIRTA TUMETES c ISEN-ISEN a MYANMAR LETTER SHAN GHA d CHA d
  JHA d NNA d BHA b SIGN SHAN SAW b MODIFIER LETTER SHAN REDUPLICATION b LETTER TAI LAING NYA e FA
  e GA e GHA e JA e JHA e DDA e DDHA e NNA b TAI LAING DIGIT ZERO e ONE e TWO e THREE e FOUR e FIVE
  e SIX e SEVEN e EIGHT e NINE b LETTER TAI LAING LLA e DA e DHA e BA e BHA a+2 CHAM LETTER A c I c
  U c E c AI c O c KA c KHA c GA c GHA c NGUE c NGA c CHA c CHHA c JA c JHA c NHUE c NHA c NHJA c
  TA c THA c DA c DHA c NUE c NA c DDA c PA c PPA c PHA c BA c BHA c MUE c MA c BBA c YA c RA c LA
  c VA c SSA c SA c HA b VOWEL SIGN AA d I d II d EI d U d OE d O d AI d AU d UE b CONSONANT SIGN
  YA d RA d LA d WA b+a LETTER FINAL K d G d NG b CONSONANT SIGN FINAL NG b LETTER FINAL CH d T d N
  d P d Y d R d L d SS b CONSONANT SIGN FINAL M e H b+3 DIGIT ZERO c ONE c TWO c THREE c FOUR c
  FIVE c SIX c SEVEN c EIGHT c NINE b+3 PUNCTUATION SPIRAL c DANDA c DOUBLE DANDA c TRIPLE DANDA a
  MYANMAR LETTER KHAMTI GA d CA d CHA d JA d JHA d NYA d TTA d TTHA d DDA d DDHA d DHA d NA d SA d
  HA d HHA d FA b MODIFIER LETTER KHAMTI REDUPLICATION b LETTER KHAMTI XA d ZA d RA b LOGOGRAM
  KHAMTI OAY d QN d HM b SYMBOL AITON EXCLAMATION d ONE d TWO b LETTER AITON RA b SIGN PAO KAREN
  TONE c TAI LAING TONE-2 e TONE-5 b LETTER SHWE PALAUNG CHA e SHA a TAI VIET LETTER LOW KO d HIGH
  KO d LOW KHO d HIGH KHO d LOW KHHO d HIGH KHHO d LOW GO d HIGH GO d LOW NGO d HIGH NGO d LOW CO d
  HIGH CO d LOW CHO d HIGH CHO d LOW SO d HIGH SO d LOW NYO d HIGH NYO d LOW DO d HIGH DO d LOW TO
  d HIGH TO d LOW THO d HIGH THO d LOW NO d HIGH NO d LOW BO d HIGH BO d LOW PO d HIGH PO d LOW PHO
  d HIGH PHO d LOW FO d HIGH FO d LOW MO d HIGH MO d LOW YO d HIGH YO d LOW RO d HIGH RO d LOW LO d
  HIGH LO d LOW VO d HIGH VO d LOW HO d HIGH HO d LOW O d HIGH O c MAI KANG c VOWEL AA d I d UE d U
  d E d O c MAI KHIT c VOWEL IA d UEA d UA d AUE d AY d AN d AM c TONE MAI EK e NUENG e THO e SONG
  c+19 SYMBOL KON d NUENG d SAM d HO HOI d KOI KOI a MEETEI MAYEK LETTER E d O d CHA d NYA d TTA d
  TTHA d DDA d DDHA d NNA d SHA d SSA c VOWEL SIGN II e UU e AAI e AU e AAU c CHEIKHAN c AHANG
  KHUDAM c ANJI c SYLLABLE REPETITION MARK c WORD REPETITION MARK c VOWEL SIGN VISARGA c VIRAMA a+b
  ETHIOPIC SYLLABLE TTHU c TTHI c TTHAA c TTHEE c TTHE c TTHO c+3 DDHU c DDHI c DDHAA c DDHEE c
  DDHE c DDHO c+3 DZU c DZI c DZAA c DZEE c DZE c DZO c+a CCHHA c CCHHU c CCHHI c CCHHAA c CCHHEE c
  CCHHE c CCHHO c+2 BBA c BBU c BBI c BBAA c BBEE c BBE c BBO a+2 LATIN SMALL LETTER BARRED ALPHA d
  A REVERSED-SCHWA d BLACKLETTER E d BARRED E d E WITH FLOURISH d LENIS F d SCRIPT G WITH
  CROSSED-TAIL d L WITH INVERTED LAZY S f DOUBLE MIDDLE TILDE f MIDDLE RING d M WITH CROSSED-TAIL d
  N WITH CROSSED-TAIL d ENG WITH CROSSED-TAIL d BLACKLETTER O f WITH STROKE d OPEN O WITH STROKE d
  INVERTED OE d TURNED OE WITH STROKE g HORIZONTAL STROKE e O OPEN-O g WITH STROKE d STIRRUP R b
  LETTER SMALL CAPITAL R WITH RIGHT LEG b SMALL LETTER R WITHOUT HANDLE d DOUBLE R d R WITH
  CROSSED-TAIL d DOUBLE R WITH CROSSED-TAIL d SCRIPT R f WITH RING d BASELINE ESH d U WITH SHORT
  RIGHT LEG e BAR WITH SHORT RIGHT LEG d UI d TURNED UI d U WITH LEFT HOOK d CHI e WITH LOW RIGHT
  RING g LEFT SERIF d X WITH LOW RIGHT RING f LONG LEFT LEG i AND LOW RIGHT RING i WITH SERIF d Y
  WITH SHORT RIGHT LEG a MODIFIER BREVE WITH INVERTED BREVE b LETTER SMALL HENG d L WITH INVERTED
  LAZY S f MIDDLE TILDE d U WITH LEFT HOOK a LATIN SMALL LETTER SAKHA YAT d IOTIFIED E d OPEN OE d
  UO d INVERTED ALPHA a GREEK LETTER SMALL CAPITAL OMEGA a LATIN SMALL LETTER DZ DIGRAPH WITH
  RETROFLEX HOOK d TS DIGRAPH WITH RETROFLEX HOOK d TURNED R WITH MIDDLE TILDE a MODIFIER LETTER
  SMALL TURNED W c LEFT TACK c RIGHT TACK a+5 CHEROKEE SMALL LETTER A d E d I d O d U d V d GA d KA
  d GE d GI d GO d GU d GV d HA d HE d HI d HO d HU d HV d LA d LE d LI d LO d LU d LV d MA d ME d
  MI d MO d MU d NA d HNA d NAH d NE d NI d NO d NU d NV d QUA d QUE d QUI d QUO d QUU d QUV d SA d
  S d SE d SI d SO d SU d SV d DA d TA d DE d TE d DI d TI d DO d DU d DV d DLA d TLA d TLE d TLI d
  TLO d TLU d TLV d TSA d TSE d TSI d TSO d TSU d TSV d WA d WE d WI d WO d WU d WV d YA a MEETEI
  MAYEK LETTER KOK d SAM d LAI d MIT d PA d NA d CHIL d TIL d KHOU d NGOU d THOU d WAI d YANG d HUK
  d UN d I d PHAM d ATIYA d GOK d JHAM d RAI d BA d JIL d DIL d GHOU d DHOU d BHAM d KOK LONSUM d
  LAI LONSUM d MIT LONSUM d PA LONSUM d NA LONSUM d TIL LONSUM d NGOU LONSUM d I LONSUM c VOWEL
  SIGN ONAP e INAP e ANAP e YENAP e SOUNAP e UNAP e CHEINAP e NUNG c CHEIKHEI c LUM IYEK c APUN
  IYEK c+3 DIGIT ZERO d ONE d TWO d THREE d FOUR d FIVE d SIX d SEVEN d EIGHT d NINE a+2bb7 HANGUL
  JUNGSEONG O-YEO c O-O-I c YO-A c YO-AE c YO-EO c U-YEO c U-I-I c YU-AE c YU-O c EU-A c EU-EO c
  EU-E c EU-O c I-YA-O c I-YAE c I-YEO c I-YE c I-O-I c I-YO c I-YU c I-I c ARAEA-A c ARAEA-E b+5
  JONGSEONG NIEUN-RIEUL c NIEUN-CHIEUCH c SSANGTIKEUT c SSANGTIKEUT-PIEUP c TIKEUT-PIEUP c
  TIKEUT-SIOS c TIKEUT-SIOS-KIYEOK c TIKEUT-CIEUC c TIKEUT-CHIEUCH c TIKEUT-THIEUTH c
  RIEUL-SSANGKIYEOK c RIEUL-KIYEOK-HIEUH c SSANGRIEUL-KHIEUKH c RIEUL-MIEUM-HIEUH c
  RIEUL-PIEUP-TIKEUT c RIEUL-PIEUP-PHIEUPH c RIEUL-YESIEUNG c RIEUL-YEORINHIEUH-HIEUH c
  KAPYEOUNRIEUL c MIEUM-NIEUN c MIEUM-SSANGNIEUN c SSANGMIEUM c MIEUM-PIEUP-SIOS c MIEUM-CIEUC c
  PIEUP-TIKEUT c PIEUP-RIEUL-PHIEUPH c PIEUP-MIEUM c SSANGPIEUP c PIEUP-SIOS-TIKEUT c PIEUP-CIEUC c
  PIEUP-CHIEUCH c SIOS-MIEUM c SIOS-KAPYEOUNPIEUP c SSANGSIOS-KIYEOK c SSANGSIOS-TIKEUT c
  SIOS-PANSIOS c SIOS-CIEUC c SIOS-CHIEUCH c SIOS-THIEUTH c SIOS-HIEUH c PANSIOS-PIEUP c
  PANSIOS-KAPYEOUNPIEUP c YESIEUNG-MIEUM c YESIEUNG-HIEUH c CIEUC-PIEUP c CIEUC-SSANGPIEUP c
  SSANGCIEUC c PHIEUPH-SIOS c PHIEUPH-THIEUTH a+2305 LATIN SMALL LIGATURE FF d FI d FL d FFI d FFL
  d LONG S T d ST a+d ARMENIAN SMALL LIGATURE MEN NOW e ECH e INI d VEW NOW d MEN XEH a+6 HEBREW
  LETTER YOD WITH HIRIQ b POINT JUDEO-SPANISH VARIKA b LIGATURE YIDDISH YOD YOD PATAH b LETTER
  ALTERNATIVE AYIN c WIDE ALEF d DALET d HE d KAF d LAMED d FINAL MEM d RESH d TAV c ALTERNATIVE
  PLUS SIGN c SHIN WITH SHIN DOT e SIN DOT e DAGESH AND SHIN DOT g SIN DOT c ALEF WITH PATAH e
  QAMATS e MAPIQ c BET WITH DAGESH c GIMEL WITH DAGESH c DALET WITH DAGESH c HE WITH MAPIQ c VAV
  WITH DAGESH c ZAYIN WITH DAGESH c+2 TET WITH DAGESH c YOD WITH DAGESH c FINAL KAF WITH DAGESH c
  KAF WITH DAGESH c LAMED WITH DAGESH c+2 MEM WITH DAGESH c+2 NUN WITH DAGESH c SAMEKH WITH DAGESH
  c+2 FINAL PE WITH DAGESH c PE WITH DAGESH c+2 TSADI WITH DAGESH c QOF WITH DAGESH c RESH WITH
  DAGESH c SHIN WITH DAGESH c TAV WITH DAGESH c VAV WITH HOLAM c BET WITH RAFE c KAF WITH RAFE c PE
  WITH RAFE b LIGATURE ALEF LAMED a ARABIC LETTER ALEF WASLA ISOLATED FORM e FINAL FORM c BEEH
  ISOLATED FORM d FINAL FORM d INITIAL FORM d MEDIAL FORM c PEH ISOLATED FORM d FINAL FORM d
  INITIAL FORM d MEDIAL FORM c BEHEH ISOLATED FORM d FINAL FORM d INITIAL FORM d MEDIAL FORM c
  TTEHEH ISOLATED FORM d FINAL FORM d INITIAL FORM d MEDIAL FORM c TEHEH ISOLATED FORM d FINAL FORM
  d INITIAL FORM d MEDIAL FORM c TTEH ISOLATED FORM d FINAL FORM d INITIAL FORM d MEDIAL FORM c VEH
  ISOLATED FORM d FINAL FORM d INITIAL FORM d MEDIAL FORM c PEHEH ISOLATED FORM d FINAL FORM d
  INITIAL FORM d MEDIAL FORM c DYEH ISOLATED FORM d FINAL FORM d INITIAL FORM d MEDIAL FORM c NYEH
  ISOLATED FORM d FINAL FORM d INITIAL FORM d MEDIAL FORM c TCHEH ISOLATED FORM d FINAL FORM d
  INITIAL FORM d MEDIAL FORM c TCHEHEH ISOLATED FORM d FINAL FORM d INITIAL FORM d MEDIAL FORM c
  DDAHAL ISOLATED FORM d FINAL FORM c DAHAL ISOLATED FORM d FINAL FORM c DUL ISOLATED FORM d FINAL
  FORM c DDAL ISOLATED FORM d FINAL FORM c JEH ISOLATED FORM d FINAL FORM c RREH ISOLATED FORM d
  FINAL FORM c KEHEH ISOLATED FORM d FINAL FORM d INITIAL FORM d MEDIAL FORM c GAF ISOLATED FORM d
  FINAL FORM d INITIAL FORM d MEDIAL FORM c GUEH ISOLATED FORM d FINAL FORM d INITIAL FORM d MEDIAL
  FORM c NGOEH ISOLATED FORM d FINAL FORM d INITIAL FORM d MEDIAL FORM c NOON GHUNNA ISOLATED FORM
  e FINAL FORM c RNOON ISOLATED FORM d FINAL FORM d INITIAL FORM d MEDIAL FORM c HEH WITH YEH ABOVE
  ISOLATED FORM g FINAL FORM d GOAL ISOLATED FORM e FINAL FORM e INITIAL FORM e MEDIAL FORM d
  DOACHASHMEE ISOLATED FORM e FINAL FORM e INITIAL FORM e MEDIAL FORM c YEH BARREE ISOLATED FORM e
  FINAL FORM e WITH HAMZA ABOVE ISOLATED FORM h FINAL FORM b SYMBOL DOT ABOVE d BELOW c TWO DOTS
  ABOVE e BELOW c THREE DOTS ABOVE e BELOW e POINTING DOWNWARDS ABOVE g BELOW c FOUR DOTS ABOVE e
  BELOW c DOUBLE VERTICAL BAR BELOW c TWO DOTS VERTICALLY ABOVE f BELOW c RING c SMALL TAH ABOVE e
  BELOW c WASLA ABOVE b+11 LETTER NG ISOLATED FORM d FINAL FORM d INITIAL FORM d MEDIAL FORM c U
  ISOLATED FORM d FINAL FORM c OE ISOLATED FORM d FINAL FORM c YU ISOLATED FORM d FINAL FORM c U
  WITH HAMZA ABOVE ISOLATED FORM c VE ISOLATED FORM d FINAL FORM c KIRGHIZ OE ISOLATED FORM e FINAL
  FORM d YU ISOLATED FORM e FINAL FORM c E ISOLATED FORM d FINAL FORM d INITIAL FORM d MEDIAL FORM
  c UIGHUR KAZAKH KIRGHIZ ALEF MAKSURA INITIAL FORM h MEDIAL FORM b LIGATURE YEH WITH HAMZA ABOVE
  WITH ALEF ISOLATED FORM i FINAL FORM h AE ISOLATED FORM i FINAL FORM h WAW ISOLATED FORM i FINAL
  FORM h U ISOLATED FORM i FINAL FORM h OE ISOLATED FORM i FINAL FORM h YU ISOLATED FORM i FINAL
  FORM h E ISOLATED FORM i FINAL FORM i INITIAL FORM c UIGHUR KIRGHIZ YEH WITH HAMZA ABOVE WITH
  ALEF MAKSURA ISOLATED FORM l FINAL FORM l INITIAL FORM b LETTER FARSI YEH ISOLATED FORM e FINAL
  FORM e INITIAL FORM e MEDIAL FORM b LIGATURE YEH WITH HAMZA ABOVE WITH JEEM ISOLATED FORM h HAH
  ISOLATED FORM h MEEM ISOLATED FORM h ALEF MAKSURA ISOLATED FORM h YEH ISOLATED FORM c BEH WITH
  JEEM ISOLATED FORM e HAH ISOLATED FORM e KHAH ISOLATED FORM e MEEM ISOLATED FORM e ALEF MAKSURA
  ISOLATED FORM e YEH ISOLATED FORM c TEH WITH JEEM ISOLATED FORM e HAH ISOLATED FORM e KHAH
  ISOLATED FORM e MEEM ISOLATED FORM e ALEF MAKSURA ISOLATED FORM e YEH ISOLATED FORM c THEH WITH
  JEEM ISOLATED FORM e MEEM ISOLATED FORM e ALEF MAKSURA ISOLATED FORM e YEH ISOLATED FORM c JEEM
  WITH HAH ISOLATED FORM e MEEM ISOLATED FORM c HAH WITH JEEM ISOLATED FORM e MEEM ISOLATED FORM c
  KHAH WITH JEEM ISOLATED FORM e HAH ISOLATED FORM e MEEM ISOLATED FORM c SEEN WITH JEEM ISOLATED
  FORM e HAH ISOLATED FORM e KHAH ISOLATED FORM e MEEM ISOLATED FORM c SAD WITH HAH ISOLATED FORM e
  MEEM ISOLATED FORM c DAD WITH JEEM ISOLATED FORM e HAH ISOLATED FORM e KHAH ISOLATED FORM e MEEM
  ISOLATED FORM c TAH WITH HAH ISOLATED FORM e MEEM ISOLATED FORM c ZAH WITH MEEM ISOLATED FORM c
  AIN WITH JEEM ISOLATED FORM e MEEM ISOLATED FORM c GHAIN WITH JEEM ISOLATED FORM e MEEM ISOLATED
  FORM c FEH WITH JEEM ISOLATED FORM e HAH ISOLATED FORM e KHAH ISOLATED FORM e MEEM ISOLATED FORM
  e ALEF MAKSURA ISOLATED FORM e YEH ISOLATED FORM c QAF WITH HAH ISOLATED FORM e MEEM ISOLATED
  FORM e ALEF MAKSURA ISOLATED FORM e YEH ISOLATED FORM c KAF WITH ALEF ISOLATED FORM e JEEM
  ISOLATED FORM e HAH ISOLATED FORM e KHAH ISOLATED FORM e LAM ISOLATED FORM e MEEM ISOLATED FORM e
  ALEF MAKSURA ISOLATED FORM e YEH ISOLATED FORM c LAM WITH JEEM ISOLATED FORM e HAH ISOLATED FORM
  e KHAH ISOLATED FORM e MEEM ISOLATED FORM e ALEF MAKSURA ISOLATED FORM e YEH ISOLATED FORM c MEEM
  WITH JEEM ISOLATED FORM e HAH ISOLATED FORM e KHAH ISOLATED FORM e MEEM ISOLATED FORM e ALEF
  MAKSURA ISOLATED FORM e YEH ISOLATED FORM c NOON WITH JEEM ISOLATED FORM e HAH ISOLATED FORM e
  KHAH ISOLATED FORM e MEEM ISOLATED FORM e ALEF MAKSURA ISOLATED FORM e YEH ISOLATED FORM c HEH
  WITH JEEM ISOLATED FORM e MEEM ISOLATED FORM e ALEF MAKSURA ISOLATED FORM e YEH ISOLATED FORM c
  YEH WITH JEEM ISOLATED FORM e HAH ISOLATED FORM e KHAH ISOLATED FORM e MEEM ISOLATED FORM e ALEF
  MAKSURA ISOLATED FORM e YEH ISOLATED FORM c THAL WITH SUPERSCRIPT ALEF ISOLATED FORM c REH WITH
  SUPERSCRIPT ALEF ISOLATED FORM c ALEF MAKSURA WITH SUPERSCRIPT ALEF ISOLATED FORM c SHADDA WITH
  DAMMATAN ISOLATED FORM e KASRATAN ISOLATED FORM e FATHA ISOLATED FORM e DAMMA ISOLATED FORM e
  KASRA ISOLATED FORM e SUPERSCRIPT ALEF ISOLATED FORM c YEH WITH HAMZA ABOVE WITH REH FINAL FORM h
  ZAIN FINAL FORM h MEEM FINAL FORM h NOON FINAL FORM h ALEF MAKSURA FINAL FORM h YEH FINAL FORM c
  BEH WITH REH FINAL FORM e ZAIN FINAL FORM e MEEM FINAL FORM e NOON FINAL FORM e ALEF MAKSURA
  FINAL FORM e YEH FINAL FORM c TEH WITH REH FINAL FORM e ZAIN FINAL FORM e MEEM FINAL FORM e NOON
  FINAL FORM e ALEF MAKSURA FINAL FORM e YEH FINAL FORM c THEH WITH REH FINAL FORM e ZAIN FINAL
  FORM e MEEM FINAL FORM e NOON FINAL FORM e ALEF MAKSURA FINAL FORM e YEH FINAL FORM c FEH WITH
  ALEF MAKSURA FINAL FORM e YEH FINAL FORM c QAF WITH ALEF MAKSURA FINAL FORM e YEH FINAL FORM c
  KAF WITH ALEF FINAL FORM e LAM FINAL FORM e MEEM FINAL FORM e ALEF MAKSURA FINAL FORM e YEH FINAL
  FORM c LAM WITH MEEM FINAL FORM e ALEF MAKSURA FINAL FORM e YEH FINAL FORM c MEEM WITH ALEF FINAL
  FORM e MEEM FINAL FORM c NOON WITH REH FINAL FORM e ZAIN FINAL FORM e MEEM FINAL FORM e NOON
  FINAL FORM e ALEF MAKSURA FINAL FORM e YEH FINAL FORM c ALEF MAKSURA WITH SUPERSCRIPT ALEF FINAL
  FORM c YEH WITH REH FINAL FORM e ZAIN FINAL FORM e MEEM FINAL FORM e NOON FINAL FORM e ALEF
  MAKSURA FINAL FORM e YEH FINAL FORM e HAMZA ABOVE WITH JEEM INITIAL FORM h HAH INITIAL FORM h
  KHAH INITIAL FORM h MEEM INITIAL FORM h HEH INITIAL FORM c BEH WITH JEEM INITIAL FORM e HAH
  INITIAL FORM e KHAH INITIAL FORM e MEEM INITIAL FORM e HEH INITIAL FORM c TEH WITH JEEM INITIAL
  FORM e HAH INITIAL FORM e KHAH INITIAL FORM e MEEM INITIAL FORM e HEH INITIAL FORM c THEH WITH
  MEEM INITIAL FORM c JEEM WITH HAH INITIAL FORM e MEEM INITIAL FORM c HAH WITH JEEM INITIAL FORM e
  MEEM INITIAL FORM c KHAH WITH JEEM INITIAL FORM e MEEM INITIAL FORM c SEEN WITH JEEM INITIAL FORM
  e HAH INITIAL FORM e KHAH INITIAL FORM e MEEM INITIAL FORM c SAD WITH HAH INITIAL FORM e KHAH
  INITIAL FORM e MEEM INITIAL FORM c DAD WITH JEEM INITIAL FORM e HAH INITIAL FORM e KHAH INITIAL
  FORM e MEEM INITIAL FORM c TAH WITH HAH INITIAL FORM c ZAH WITH MEEM INITIAL FORM c AIN WITH JEEM
  INITIAL FORM e MEEM INITIAL FORM c GHAIN WITH JEEM INITIAL FORM e MEEM INITIAL FORM c FEH WITH
  JEEM INITIAL FORM e HAH INITIAL FORM e KHAH INITIAL FORM e MEEM INITIAL FORM c QAF WITH HAH
  INITIAL FORM e MEEM INITIAL FORM c KAF WITH JEEM INITIAL FORM e HAH INITIAL FORM e KHAH INITIAL
  FORM e LAM INITIAL FORM e MEEM INITIAL FORM c LAM WITH JEEM INITIAL FORM e HAH INITIAL FORM e
  KHAH INITIAL FORM e MEEM INITIAL FORM e HEH INITIAL FORM c MEEM WITH JEEM INITIAL FORM e HAH
  INITIAL FORM e KHAH INITIAL FORM e MEEM INITIAL FORM c NOON WITH JEEM INITIAL FORM e HAH INITIAL
  FORM e KHAH INITIAL FORM e MEEM INITIAL FORM e HEH INITIAL FORM c HEH WITH JEEM INITIAL FORM e
  MEEM INITIAL FORM e SUPERSCRIPT ALEF INITIAL FORM c YEH WITH JEEM INITIAL FORM e HAH INITIAL FORM
  e KHAH INITIAL FORM e MEEM INITIAL FORM e HEH INITIAL FORM e HAMZA ABOVE WITH MEEM MEDIAL FORM h
  HEH MEDIAL FORM c BEH WITH MEEM MEDIAL FORM e HEH MEDIAL FORM c TEH WITH MEEM MEDIAL FORM e HEH
  MEDIAL FORM c THEH WITH MEEM MEDIAL FORM e HEH MEDIAL FORM c SEEN WITH MEEM MEDIAL FORM e HEH
  MEDIAL FORM c SHEEN WITH MEEM MEDIAL FORM e HEH MEDIAL FORM c KAF WITH LAM MEDIAL FORM e MEEM
  MEDIAL FORM c LAM WITH MEEM MEDIAL FORM c NOON WITH MEEM MEDIAL FORM e HEH MEDIAL FORM c YEH WITH
  MEEM MEDIAL FORM e HEH MEDIAL FORM c SHADDA WITH FATHA MEDIAL FORM e DAMMA MEDIAL FORM e KASRA
  MEDIAL FORM c TAH WITH ALEF MAKSURA ISOLATED FORM e YEH ISOLATED FORM c AIN WITH ALEF MAKSURA
  ISOLATED FORM e YEH ISOLATED FORM c GHAIN WITH ALEF MAKSURA ISOLATED FORM e YEH ISOLATED FORM c
  SEEN WITH ALEF MAKSURA ISOLATED FORM e YEH ISOLATED FORM c SHEEN WITH ALEF MAKSURA ISOLATED FORM
  e YEH ISOLATED FORM c HAH WITH ALEF MAKSURA ISOLATED FORM e YEH ISOLATED FORM c JEEM WITH ALEF
  MAKSURA ISOLATED FORM e YEH ISOLATED FORM c KHAH WITH ALEF MAKSURA ISOLATED FORM e YEH ISOLATED
  FORM c SAD WITH ALEF MAKSURA ISOLATED FORM e YEH ISOLATED FORM c DAD WITH ALEF MAKSURA ISOLATED
  FORM e YEH ISOLATED FORM c SHEEN WITH JEEM ISOLATED FORM e HAH ISOLATED FORM e KHAH ISOLATED FORM
  e MEEM ISOLATED FORM e REH ISOLATED FORM c SEEN WITH REH ISOLATED FORM c SAD WITH REH ISOLATED
  FORM c DAD WITH REH ISOLATED FORM c TAH WITH ALEF MAKSURA FINAL FORM e YEH FINAL FORM c AIN WITH
  ALEF MAKSURA FINAL FORM e YEH FINAL FORM c GHAIN WITH ALEF MAKSURA FINAL FORM e YEH FINAL FORM c
  SEEN WITH ALEF MAKSURA FINAL FORM e YEH FINAL FORM c SHEEN WITH ALEF MAKSURA FINAL FORM e YEH
  FINAL FORM c HAH WITH ALEF MAKSURA FINAL FORM e YEH FINAL FORM c JEEM WITH ALEF MAKSURA FINAL
  FORM e YEH FINAL FORM c KHAH WITH ALEF MAKSURA FINAL FORM e YEH FINAL FORM c SAD WITH ALEF
  MAKSURA FINAL FORM e YEH FINAL FORM c DAD WITH ALEF MAKSURA FINAL FORM e YEH FINAL FORM c SHEEN
  WITH JEEM FINAL FORM e HAH FINAL FORM e KHAH FINAL FORM e MEEM FINAL FORM e REH FINAL FORM c SEEN
  WITH REH FINAL FORM c SAD WITH REH FINAL FORM c DAD WITH REH FINAL FORM c SHEEN WITH JEEM INITIAL
  FORM e HAH INITIAL FORM e KHAH INITIAL FORM e MEEM INITIAL FORM c SEEN WITH HEH INITIAL FORM c
  SHEEN WITH HEH INITIAL FORM c TAH WITH MEEM INITIAL FORM c SEEN WITH JEEM MEDIAL FORM e HAH
  MEDIAL FORM e KHAH MEDIAL FORM c SHEEN WITH JEEM MEDIAL FORM e HAH MEDIAL FORM e KHAH MEDIAL FORM
  c TAH WITH MEEM MEDIAL FORM c ZAH WITH MEEM MEDIAL FORM c ALEF WITH FATHATAN FINAL FORM f
  ISOLATED FORM a ORNATE LEFT PARENTHESIS b RIGHT PARENTHESIS a ARABIC LIGATURE RAHIMAHU ALLAAH c
  RADI ALLAAHU ANH e ANHAA e ANHUM e ANHUMAA e ANHUNNA c SALLALLAAHU ALAYHI WA-AALIH c ALAYHI
  AS-SALAAM c ALAYHIM AS-SALAAM c ALAYHIMAA AS-SALAAM c ALAYHI AS-SALAATU WAS-SALAAM c QUDDISA
  SIRRAH c SALLALLAHU ALAYHI WAAALIHEE WA-SALLAM c ALAYHAA AS-SALAAM c TABAARAKA WA-TAAALAA c
  RAHIMAHUM ALLAAH c TEH WITH JEEM WITH MEEM INITIAL FORM e HAH WITH JEEM FINAL FORM h INITIAL FORM
  g MEEM INITIAL FORM e KHAH WITH MEEM INITIAL FORM e MEEM WITH JEEM INITIAL FORM g HAH INITIAL
  FORM g KHAH INITIAL FORM c JEEM WITH MEEM WITH HAH FINAL FORM h INITIAL FORM c HAH WITH MEEM WITH
  YEH FINAL FORM g ALEF MAKSURA FINAL FORM c SEEN WITH HAH WITH JEEM INITIAL FORM e JEEM WITH HAH
  INITIAL FORM g ALEF MAKSURA FINAL FORM e MEEM WITH HAH FINAL FORM h INITIAL FORM g JEEM INITIAL
  FORM g MEEM FINAL FORM h INITIAL FORM c SAD WITH HAH WITH HAH FINAL FORM h INITIAL FORM e MEEM
  WITH MEEM FINAL FORM c SHEEN WITH HAH WITH MEEM FINAL FORM h INITIAL FORM e JEEM WITH YEH FINAL
  FORM e MEEM WITH KHAH FINAL FORM h INITIAL FORM g MEEM FINAL FORM h INITIAL FORM c DAD WITH HAH
  WITH ALEF MAKSURA FINAL FORM e KHAH WITH MEEM FINAL FORM h INITIAL FORM c TAH WITH MEEM WITH HAH
  FINAL FORM h INITIAL FORM g MEEM INITIAL FORM g YEH FINAL FORM c AIN WITH JEEM WITH MEEM FINAL
  FORM e MEEM WITH MEEM FINAL FORM h INITIAL FORM g ALEF MAKSURA FINAL FORM c GHAIN WITH MEEM WITH
  MEEM FINAL FORM g YEH FINAL FORM g ALEF MAKSURA FINAL FORM c FEH WITH KHAH WITH MEEM FINAL FORM h
  INITIAL FORM c QAF WITH MEEM WITH HAH FINAL FORM g MEEM FINAL FORM c LAM WITH HAH WITH MEEM FINAL
  FORM g YEH FINAL FORM g ALEF MAKSURA FINAL FORM e JEEM WITH JEEM INITIAL FORM h FINAL FORM e KHAH
  WITH MEEM FINAL FORM h INITIAL FORM e MEEM WITH HAH FINAL FORM h INITIAL FORM c MEEM WITH HAH
  WITH JEEM INITIAL FORM g MEEM INITIAL FORM g YEH FINAL FORM e JEEM WITH HAH INITIAL FORM g MEEM
  INITIAL FORM e KHAH WITH JEEM INITIAL FORM g MEEM INITIAL FORM e+3 JEEM WITH KHAH INITIAL FORM c
  HEH WITH MEEM WITH JEEM INITIAL FORM g MEEM INITIAL FORM c NOON WITH HAH WITH MEEM INITIAL FORM g
  ALEF MAKSURA FINAL FORM e JEEM WITH MEEM FINAL FORM h INITIAL FORM g ALEF MAKSURA FINAL FORM e
  MEEM WITH YEH FINAL FORM g ALEF MAKSURA FINAL FORM c YEH WITH MEEM WITH MEEM FINAL FORM h INITIAL
  FORM c BEH WITH KHAH WITH YEH FINAL FORM c TEH WITH JEEM WITH YEH FINAL FORM g ALEF MAKSURA FINAL
  FORM e KHAH WITH YEH FINAL FORM g ALEF MAKSURA FINAL FORM e MEEM WITH YEH FINAL FORM g ALEF
  MAKSURA FINAL FORM c JEEM WITH MEEM WITH YEH FINAL FORM e HAH WITH ALEF MAKSURA FINAL FORM e MEEM
  WITH ALEF MAKSURA FINAL FORM c SEEN WITH KHAH WITH ALEF MAKSURA FINAL FORM c SAD WITH HAH WITH
  YEH FINAL FORM c SHEEN WITH HAH WITH YEH FINAL FORM c DAD WITH HAH WITH YEH FINAL FORM c LAM WITH
  JEEM WITH YEH FINAL FORM e MEEM WITH YEH FINAL FORM c YEH WITH HAH WITH YEH FINAL FORM e JEEM
  WITH YEH FINAL FORM e MEEM WITH YEH FINAL FORM c MEEM WITH MEEM WITH YEH FINAL FORM c QAF WITH
  MEEM WITH YEH FINAL FORM c NOON WITH HAH WITH YEH FINAL FORM c QAF WITH MEEM WITH HAH INITIAL
  FORM c LAM WITH HAH WITH MEEM INITIAL FORM c AIN WITH MEEM WITH YEH FINAL FORM c KAF WITH MEEM
  WITH YEH FINAL FORM c NOON WITH JEEM WITH HAH INITIAL FORM c MEEM WITH KHAH WITH YEH FINAL FORM c
  LAM WITH JEEM WITH MEEM INITIAL FORM c KAF WITH MEEM WITH MEEM FINAL FORM c LAM WITH JEEM WITH
  MEEM FINAL FORM c NOON WITH JEEM WITH HAH FINAL FORM c JEEM WITH HAH WITH YEH FINAL FORM c HAH
  WITH JEEM WITH YEH FINAL FORM c MEEM WITH JEEM WITH YEH FINAL FORM c FEH WITH MEEM WITH YEH FINAL
  FORM c BEH WITH HAH WITH YEH FINAL FORM c KAF WITH MEEM WITH MEEM INITIAL FORM c AIN WITH JEEM
  WITH MEEM INITIAL FORM c SAD WITH MEEM WITH MEEM INITIAL FORM c SEEN WITH KHAH WITH YEH FINAL
  FORM c NOON WITH JEEM WITH YEH FINAL FORM c+8 SALAAMUHU ALAYNAA c+21 SALLA USED AS KORANIC STOP
  SIGN ISOLATED FORM c QALA USED AS KORANIC STOP SIGN ISOLATED FORM c ALLAH ISOLATED FORM c AKBAR
  ISOLATED FORM c MOHAMMAD ISOLATED FORM c SALAM ISOLATED FORM c RASOUL ISOLATED FORM c ALAYHE
  ISOLATED FORM c WASALLAM ISOLATED FORM c SALLA ISOLATED FORM c SALLALLAHOU ALAYHE WASALLAM c
  JALLAJALALOUHOU a RIAL SIGN a ARABIC LIGATURE BISMILLAH AR-RAHMAN AR-RAHEEM c SUBHAANAHU WA
  TAAALAA c AZZA WA JALL a VARIATION SELECTOR-1 b SELECTOR-2 b SELECTOR-3 b SELECTOR-4 b SELECTOR-5
  b SELECTOR-6 b SELECTOR-7 b SELECTOR-8 b SELECTOR-9 b SELECTOR-10 b SELECTOR-11 b SELECTOR-12 b
  SELECTOR-13 b SELECTOR-14 b SELECTOR-15 b SELECTOR-16 a PRESENTATION FORM FOR VERTICAL COMMA e
  IDEOGRAPHIC COMMA f FULL STOP e COLON e SEMICOLON e EXCLAMATION MARK e QUESTION MARK e LEFT WHITE
  LENTICULAR BRACKET e RIGHT WHITE LENTICULAR BRAKCET e HORIZONTAL ELLIPSIS a+7 COMBINING LIGATURE
  LEFT HALF c RIGHT HALF b DOUBLE TILDE LEFT HALF d RIGHT HALF b MACRON LEFT HALF c RIGHT HALF b
  CONJOINING MACRON b LIGATURE LEFT HALF BELOW c RIGHT HALF BELOW b TILDE LEFT HALF BELOW c RIGHT
  HALF BELOW b MACRON LEFT HALF BELOW c RIGHT HALF BELOW b CONJOINING MACRON BELOW b CYRILLIC TITLO
  LEFT HALF d RIGHT HALF a PRESENTATION FORM FOR VERTICAL TWO DOT LEADER e EM DASH e EN DASH e LOW
  LINE e WAVY LOW LINE e LEFT PARENTHESIS e RIGHT PARENTHESIS e LEFT CURLY BRACKET e RIGHT CURLY
  BRACKET e LEFT TORTOISE SHELL BRACKET e RIGHT TORTOISE SHELL BRACKET e LEFT BLACK LENTICULAR
  BRACKET e RIGHT BLACK LENTICULAR BRACKET e LEFT DOUBLE ANGLE BRACKET e RIGHT DOUBLE ANGLE BRACKET
  e LEFT ANGLE BRACKET e RIGHT ANGLE BRACKET e LEFT CORNER BRACKET e RIGHT CORNER BRACKET e LEFT
  WHITE CORNER BRACKET e RIGHT WHITE CORNER BRACKET a SESAME DOT a WHITE SESAME DOT a PRESENTATION
  FORM FOR VERTICAL LEFT SQUARE BRACKET e RIGHT SQUARE BRACKET a DASHED OVERLINE a CENTRELINE
  OVERLINE a WAVY OVERLINE a DOUBLE WAVY OVERLINE a DASHED LOW LINE a CENTRELINE LOW LINE a WAVY
  LOW LINE a SMALL COMMA b IDEOGRAPHIC COMMA b FULL STOP b+2 SEMICOLON b COLON b QUESTION MARK b
  EXCLAMATION MARK b EM DASH b LEFT PARENTHESIS b RIGHT PARENTHESIS b LEFT CURLY BRACKET b RIGHT
  CURLY BRACKET b LEFT TORTOISE SHELL BRACKET b RIGHT TORTOISE SHELL BRACKET b NUMBER SIGN b
  AMPERSAND b ASTERISK b PLUS SIGN b HYPHEN-MINUS b LESS-THAN SIGN b GREATER-THAN SIGN b EQUALS
  SIGN b+2 REVERSE SOLIDUS b DOLLAR SIGN b PERCENT SIGN b COMMERCIAL AT a+5 ARABIC FATHATAN
  ISOLATED FORM b TATWEEL WITH FATHATAN ABOVE b DAMMATAN ISOLATED FORM b TAIL FRAGMENT b KASRATAN
  ISOLATED FORM b+2 FATHA ISOLATED FORM c MEDIAL FORM b DAMMA ISOLATED FORM c MEDIAL FORM b KASRA
  ISOLATED FORM c MEDIAL FORM b SHADDA ISOLATED FORM c MEDIAL FORM b SUKUN ISOLATED FORM c MEDIAL
  FORM b LETTER HAMZA ISOLATED FORM c ALEF WITH MADDA ABOVE ISOLATED FORM g FINAL FORM e HAMZA
  ABOVE ISOLATED FORM g FINAL FORM c WAW WITH HAMZA ABOVE ISOLATED FORM g FINAL FORM c ALEF WITH
  HAMZA BELOW ISOLATED FORM g FINAL FORM c YEH WITH HAMZA ABOVE ISOLATED FORM g FINAL FORM g
  INITIAL FORM g MEDIAL FORM c ALEF ISOLATED FORM d FINAL FORM c BEH ISOLATED FORM d FINAL FORM d
  INITIAL FORM d MEDIAL FORM c TEH MARBUTA ISOLATED FORM e FINAL FORM d ISOLATED FORM d FINAL FORM
  d INITIAL FORM d MEDIAL FORM c THEH ISOLATED FORM d FINAL FORM d INITIAL FORM d MEDIAL FORM c
  JEEM ISOLATED FORM d FINAL FORM d INITIAL FORM d MEDIAL FORM c HAH ISOLATED FORM d FINAL FORM d
  INITIAL FORM d MEDIAL FORM c KHAH ISOLATED FORM d FINAL FORM d INITIAL FORM d MEDIAL FORM c DAL
  ISOLATED FORM d FINAL FORM c THAL ISOLATED FORM d FINAL FORM c REH ISOLATED FORM d FINAL FORM c
  ZAIN ISOLATED FORM d FINAL FORM c SEEN ISOLATED FORM d FINAL FORM d INITIAL FORM d MEDIAL FORM c
  SHEEN ISOLATED FORM d FINAL FORM d INITIAL FORM d MEDIAL FORM c SAD ISOLATED FORM d FINAL FORM d
  INITIAL FORM d MEDIAL FORM c DAD ISOLATED FORM d FINAL FORM d INITIAL FORM d MEDIAL FORM c TAH
  ISOLATED FORM d FINAL FORM d INITIAL FORM d MEDIAL FORM c ZAH ISOLATED FORM d FINAL FORM d
  INITIAL FORM d MEDIAL FORM c AIN ISOLATED FORM d FINAL FORM d INITIAL FORM d MEDIAL FORM c GHAIN
  ISOLATED FORM d FINAL FORM d INITIAL FORM d MEDIAL FORM c FEH ISOLATED FORM d FINAL FORM d
  INITIAL FORM d MEDIAL FORM c QAF ISOLATED FORM d FINAL FORM d INITIAL FORM d MEDIAL FORM c KAF
  ISOLATED FORM d FINAL FORM d INITIAL FORM d MEDIAL FORM c LAM ISOLATED FORM d FINAL FORM d
  INITIAL FORM d MEDIAL FORM c MEEM ISOLATED FORM d FINAL FORM d INITIAL FORM d MEDIAL FORM c NOON
  ISOLATED FORM d FINAL FORM d INITIAL FORM d MEDIAL FORM c HEH ISOLATED FORM d FINAL FORM d
  INITIAL FORM d MEDIAL FORM c WAW ISOLATED FORM d FINAL FORM c ALEF MAKSURA ISOLATED FORM e FINAL
  FORM c YEH ISOLATED FORM d FINAL FORM d INITIAL FORM d MEDIAL FORM b LIGATURE LAM WITH ALEF WITH
  MADDA ABOVE ISOLATED FORM i FINAL FORM g HAMZA ABOVE ISOLATED FORM i FINAL FORM h BELOW ISOLATED
  FORM i FINAL FORM f ISOLATED FORM f FINAL FORM a+3 ZERO WIDTH NO-BREAK SPACE a+2 FULLWIDTH
  EXCLAMATION MARK b QUOTATION MARK b NUMBER SIGN b DOLLAR SIGN b PERCENT SIGN b AMPERSAND b
  APOSTROPHE b LEFT PARENTHESIS b RIGHT PARENTHESIS b ASTERISK b PLUS SIGN b COMMA b HYPHEN-MINUS b
  FULL STOP b SOLIDUS b DIGIT ZERO c ONE c TWO c THREE c FOUR c FIVE c SIX c SEVEN c EIGHT c NINE b
  COLON b SEMICOLON b LESS-THAN SIGN b EQUALS SIGN b GREATER-THAN SIGN b QUESTION MARK b COMMERCIAL
  AT b LATIN CAPITAL LETTER A e B e C e D e E e F e G e H e I e J e K e L e M e N e O e P e Q e R e
  S e T e U e V e W e X e Y e Z b LEFT SQUARE BRACKET b REVERSE SOLIDUS b RIGHT SQUARE BRACKET b
  CIRCUMFLEX ACCENT b LOW LINE b GRAVE ACCENT b LATIN SMALL LETTER A e B e C e D e E e F e G e H e
  I e J e K e L e M e N e O e P e Q e R e S e T e U e V e W e X e Y e Z b LEFT CURLY BRACKET b
  VERTICAL LINE b RIGHT CURLY BRACKET b TILDE b LEFT WHITE PARENTHESIS b RIGHT WHITE PARENTHESIS a
  HALFWIDTH IDEOGRAPHIC FULL STOP b LEFT CORNER BRACKET b RIGHT CORNER BRACKET b IDEOGRAPHIC COMMA
  b KATAKANA MIDDLE DOT c LETTER WO d SMALL A e I e U e E e O e YA e YU e YO e TU b
  KATAKANA-HIRAGANA PROLONGED SOUND MARK b KATAKANA LETTER A d I d U d E d O d KA d KI d KU d KE d
  KO d SA d SI d SU d SE d SO d TA d TI d TU d TE d TO d NA d NI d NU d NE d NO d HA d HI d HU d HE
  d HO d MA d MI d MU d ME d MO d YA d YU d YO d RA d RI d RU d RE d RO d WA d N c VOICED SOUND
  MARK c SEMI-VOICED SOUND MARK b HANGUL FILLER c LETTER KIYEOK d SSANGKIYEOK d KIYEOK-SIOS d NIEUN
  d NIEUN-CIEUC d NIEUN-HIEUH d TIKEUT d SSANGTIKEUT d RIEUL d RIEUL-KIYEOK d RIEUL-MIEUM d
  RIEUL-PIEUP d RIEUL-SIOS d RIEUL-THIEUTH d RIEUL-PHIEUPH d RIEUL-HIEUH d MIEUM d PIEUP d
  SSANGPIEUP d PIEUP-SIOS d SIOS d SSANGSIOS d IEUNG d CIEUC d SSANGCIEUC d CHIEUCH d KHIEUKH d
  THIEUTH d PHIEUPH d HIEUH d+4 A d AE d YA d YAE d EO d E d+3 YEO d YE d O d WA d WAE d OE d+3 YO
  d U d WEO d WE d WI d YU d+3 EU d YI d I a+4 FULLWIDTH CENT SIGN b POUND SIGN b NOT SIGN b MACRON
  b BROKEN BAR b YEN SIGN b WON SIGN a+2 HALFWIDTH FORMS LIGHT VERTICAL b LEFTWARDS ARROW b UPWARDS
  ARROW b RIGHTWARDS ARROW b DOWNWARDS ARROW b BLACK SQUARE b WHITE CIRCLE a+b INTERLINEAR
  ANNOTATION ANCHOR c SEPARATOR c TERMINATOR a OBJECT REPLACEMENT CHARACTER a REPLACEMENT CHARACTER"

end Notebook.Text.NameRows
