/-!
# Names of characters

Entries with a semicolon or a line break between them.  An entry is a code point in
hexadecimal digits, which is left out when it follows the one before, a colon, the number
of words that the name begins with as the one before does, and the other words.
-/

namespace Workflow

namespace Text

namespace Table

/-- The names of the characters of common scripts, of punctuation and of symbols. -/
def characterNames : String :=
  "20:0SPACE;:0EXCLAMATION MARK;:0QUOTATION MARK;:0NUMBER SIGN;:0DOLLAR SIGN;:0PERCENT SIGN
:0AMPERSAND;:0APOSTROPHE;:0LEFT PARENTHESIS;:0RIGHT PARENTHESIS;:0ASTERISK;:0PLUS SIGN;:0COMMA
:0HYPHEN-MINUS;:0FULL STOP;:0SOLIDUS;:0DIGIT ZERO;:1ONE;:1TWO;:1THREE;:1FOUR;:1FIVE;:1SIX;:1SEVEN
:1EIGHT;:1NINE;:0COLON;:0SEMICOLON;:0LESS-THAN SIGN;:0EQUALS SIGN;:0GREATER-THAN SIGN
:0QUESTION MARK;:0COMMERCIAL AT;:0LATIN CAPITAL LETTER A;:3B;:3C;:3D;:3E;:3F;:3G;:3H;:3I;:3J;:3K
:3L;:3M;:3N;:3O;:3P;:3Q;:3R;:3S;:3T;:3U;:3V;:3W;:3X;:3Y;:3Z;:0LEFT SQUARE BRACKET
:0REVERSE SOLIDUS;:0RIGHT SQUARE BRACKET;:0CIRCUMFLEX ACCENT;:0LOW LINE;:0GRAVE ACCENT
:0LATIN SMALL LETTER A;:3B;:3C;:3D;:3E;:3F;:3G;:3H;:3I;:3J;:3K;:3L;:3M;:3N;:3O;:3P;:3Q;:3R;:3S
:3T;:3U;:3V;:3W;:3X;:3Y;:3Z;:0LEFT CURLY BRACKET;:0VERTICAL LINE;:0RIGHT CURLY BRACKET;:0TILDE
a0:0NO-BREAK SPACE;:0INVERTED EXCLAMATION MARK;:0CENT SIGN;:0POUND SIGN;:0CURRENCY SIGN
:0YEN SIGN;:0BROKEN BAR;:0SECTION SIGN;:0DIAERESIS;:0COPYRIGHT SIGN;:0FEMININE ORDINAL INDICATOR
:0LEFT-POINTING DOUBLE ANGLE QUOTATION MARK;:0NOT SIGN;:0SOFT HYPHEN;:0REGISTERED SIGN;:0MACRON
:0DEGREE SIGN;:0PLUS-MINUS SIGN;:0SUPERSCRIPT TWO;:1THREE;:0ACUTE ACCENT;:0MICRO SIGN
:0PILCROW SIGN;:0MIDDLE DOT;:0CEDILLA;:0SUPERSCRIPT ONE;:0MASCULINE ORDINAL INDICATOR
:0RIGHT-POINTING DOUBLE ANGLE QUOTATION MARK;:0VULGAR FRACTION ONE QUARTER;:3HALF
:2THREE QUARTERS;:0INVERTED QUESTION MARK;:0LATIN CAPITAL LETTER A WITH GRAVE;:5ACUTE
:5CIRCUMFLEX;:5TILDE;:5DIAERESIS;:5RING ABOVE;:3AE;:3C WITH CEDILLA;:3E WITH GRAVE;:5ACUTE
:5CIRCUMFLEX;:5DIAERESIS;:3I WITH GRAVE;:5ACUTE;:5CIRCUMFLEX;:5DIAERESIS;:3ETH;:3N WITH TILDE
:3O WITH GRAVE;:5ACUTE;:5CIRCUMFLEX;:5TILDE;:5DIAERESIS;:0MULTIPLICATION SIGN
:0LATIN CAPITAL LETTER O WITH STROKE;:3U WITH GRAVE;:5ACUTE;:5CIRCUMFLEX;:5DIAERESIS
:3Y WITH ACUTE;:3THORN;:1SMALL LETTER SHARP S;:3A WITH GRAVE;:5ACUTE;:5CIRCUMFLEX;:5TILDE
:5DIAERESIS;:5RING ABOVE;:3AE;:3C WITH CEDILLA;:3E WITH GRAVE;:5ACUTE;:5CIRCUMFLEX;:5DIAERESIS
:3I WITH GRAVE;:5ACUTE;:5CIRCUMFLEX;:5DIAERESIS;:3ETH;:3N WITH TILDE;:3O WITH GRAVE;:5ACUTE
:5CIRCUMFLEX;:5TILDE;:5DIAERESIS;:0DIVISION SIGN;:0LATIN SMALL LETTER O WITH STROKE
:3U WITH GRAVE;:5ACUTE;:5CIRCUMFLEX;:5DIAERESIS;:3Y WITH ACUTE;:3THORN;:3Y WITH DIAERESIS
:1CAPITAL LETTER A WITH MACRON;:1SMALL LETTER A WITH MACRON;:1CAPITAL LETTER A WITH BREVE
:1SMALL LETTER A WITH BREVE;:1CAPITAL LETTER A WITH OGONEK;:1SMALL LETTER A WITH OGONEK
:1CAPITAL LETTER C WITH ACUTE;:1SMALL LETTER C WITH ACUTE;:1CAPITAL LETTER C WITH CIRCUMFLEX
:1SMALL LETTER C WITH CIRCUMFLEX;:1CAPITAL LETTER C WITH DOT ABOVE
:1SMALL LETTER C WITH DOT ABOVE;:1CAPITAL LETTER C WITH CARON;:1SMALL LETTER C WITH CARON
:1CAPITAL LETTER D WITH CARON;:1SMALL LETTER D WITH CARON;:1CAPITAL LETTER D WITH STROKE
:1SMALL LETTER D WITH STROKE;:1CAPITAL LETTER E WITH MACRON;:1SMALL LETTER E WITH MACRON
:1CAPITAL LETTER E WITH BREVE;:1SMALL LETTER E WITH BREVE;:1CAPITAL LETTER E WITH DOT ABOVE
:1SMALL LETTER E WITH DOT ABOVE;:1CAPITAL LETTER E WITH OGONEK;:1SMALL LETTER E WITH OGONEK
:1CAPITAL LETTER E WITH CARON;:1SMALL LETTER E WITH CARON;:1CAPITAL LETTER G WITH CIRCUMFLEX
:1SMALL LETTER G WITH CIRCUMFLEX;:1CAPITAL LETTER G WITH BREVE;:1SMALL LETTER G WITH BREVE
:1CAPITAL LETTER G WITH DOT ABOVE;:1SMALL LETTER G WITH DOT ABOVE;:1CAPITAL LETTER G WITH CEDILLA
:1SMALL LETTER G WITH CEDILLA;:1CAPITAL LETTER H WITH CIRCUMFLEX;:1SMALL LETTER H WITH CIRCUMFLEX
:1CAPITAL LETTER H WITH STROKE;:1SMALL LETTER H WITH STROKE;:1CAPITAL LETTER I WITH TILDE
:1SMALL LETTER I WITH TILDE;:1CAPITAL LETTER I WITH MACRON;:1SMALL LETTER I WITH MACRON
:1CAPITAL LETTER I WITH BREVE;:1SMALL LETTER I WITH BREVE;:1CAPITAL LETTER I WITH OGONEK
:1SMALL LETTER I WITH OGONEK;:1CAPITAL LETTER I WITH DOT ABOVE;:1SMALL LETTER DOTLESS I
:1CAPITAL LIGATURE IJ;:1SMALL LIGATURE IJ;:1CAPITAL LETTER J WITH CIRCUMFLEX
:1SMALL LETTER J WITH CIRCUMFLEX;:1CAPITAL LETTER K WITH CEDILLA;:1SMALL LETTER K WITH CEDILLA
:3KRA;:1CAPITAL LETTER L WITH ACUTE;:1SMALL LETTER L WITH ACUTE;:1CAPITAL LETTER L WITH CEDILLA
:1SMALL LETTER L WITH CEDILLA;:1CAPITAL LETTER L WITH CARON;:1SMALL LETTER L WITH CARON
:1CAPITAL LETTER L WITH MIDDLE DOT;:1SMALL LETTER L WITH MIDDLE DOT
:1CAPITAL LETTER L WITH STROKE;:1SMALL LETTER L WITH STROKE;:1CAPITAL LETTER N WITH ACUTE
:1SMALL LETTER N WITH ACUTE;:1CAPITAL LETTER N WITH CEDILLA;:1SMALL LETTER N WITH CEDILLA
:1CAPITAL LETTER N WITH CARON;:1SMALL LETTER N WITH CARON;:4PRECEDED BY APOSTROPHE
:1CAPITAL LETTER ENG;:1SMALL LETTER ENG;:1CAPITAL LETTER O WITH MACRON
:1SMALL LETTER O WITH MACRON;:1CAPITAL LETTER O WITH BREVE;:1SMALL LETTER O WITH BREVE
:1CAPITAL LETTER O WITH DOUBLE ACUTE;:1SMALL LETTER O WITH DOUBLE ACUTE;:1CAPITAL LIGATURE OE
:1SMALL LIGATURE OE;:1CAPITAL LETTER R WITH ACUTE;:1SMALL LETTER R WITH ACUTE
:1CAPITAL LETTER R WITH CEDILLA;:1SMALL LETTER R WITH CEDILLA;:1CAPITAL LETTER R WITH CARON
:1SMALL LETTER R WITH CARON;:1CAPITAL LETTER S WITH ACUTE;:1SMALL LETTER S WITH ACUTE
:1CAPITAL LETTER S WITH CIRCUMFLEX;:1SMALL LETTER S WITH CIRCUMFLEX
:1CAPITAL LETTER S WITH CEDILLA;:1SMALL LETTER S WITH CEDILLA;:1CAPITAL LETTER S WITH CARON
:1SMALL LETTER S WITH CARON;:1CAPITAL LETTER T WITH CEDILLA;:1SMALL LETTER T WITH CEDILLA
:1CAPITAL LETTER T WITH CARON;:1SMALL LETTER T WITH CARON;:1CAPITAL LETTER T WITH STROKE
:1SMALL LETTER T WITH STROKE;:1CAPITAL LETTER U WITH TILDE;:1SMALL LETTER U WITH TILDE
:1CAPITAL LETTER U WITH MACRON;:1SMALL LETTER U WITH MACRON;:1CAPITAL LETTER U WITH BREVE
:1SMALL LETTER U WITH BREVE;:1CAPITAL LETTER U WITH RING ABOVE;:1SMALL LETTER U WITH RING ABOVE
:1CAPITAL LETTER U WITH DOUBLE ACUTE;:1SMALL LETTER U WITH DOUBLE ACUTE
:1CAPITAL LETTER U WITH OGONEK;:1SMALL LETTER U WITH OGONEK;:1CAPITAL LETTER W WITH CIRCUMFLEX
:1SMALL LETTER W WITH CIRCUMFLEX;:1CAPITAL LETTER Y WITH CIRCUMFLEX
:1SMALL LETTER Y WITH CIRCUMFLEX;:1CAPITAL LETTER Y WITH DIAERESIS;:3Z WITH ACUTE
:1SMALL LETTER Z WITH ACUTE;:1CAPITAL LETTER Z WITH DOT ABOVE;:1SMALL LETTER Z WITH DOT ABOVE
:1CAPITAL LETTER Z WITH CARON;:1SMALL LETTER Z WITH CARON;:3LONG S;:3B WITH STROKE
:1CAPITAL LETTER B WITH HOOK;:5TOPBAR;:1SMALL LETTER B WITH TOPBAR;:1CAPITAL LETTER TONE SIX
:1SMALL LETTER TONE SIX;:1CAPITAL LETTER OPEN O;:3C WITH HOOK;:1SMALL LETTER C WITH HOOK
:1CAPITAL LETTER AFRICAN D;:3D WITH HOOK;:5TOPBAR;:1SMALL LETTER D WITH TOPBAR;:3TURNED DELTA
:1CAPITAL LETTER REVERSED E;:3SCHWA;:3OPEN E;:3F WITH HOOK;:1SMALL LETTER F WITH HOOK
:1CAPITAL LETTER G WITH HOOK;:3GAMMA;:1SMALL LETTER HV;:1CAPITAL LETTER IOTA;:3I WITH STROKE
:3K WITH HOOK;:1SMALL LETTER K WITH HOOK;:3L WITH BAR;:3LAMBDA WITH STROKE
:1CAPITAL LETTER TURNED M;:3N WITH LEFT HOOK;:1SMALL LETTER N WITH LONG RIGHT LEG
:1CAPITAL LETTER O WITH MIDDLE TILDE;:5HORN;:1SMALL LETTER O WITH HORN;:1CAPITAL LETTER OI
:1SMALL LETTER OI;:1CAPITAL LETTER P WITH HOOK;:1SMALL LETTER P WITH HOOK;:1LETTER YR
:1CAPITAL LETTER TONE TWO;:1SMALL LETTER TONE TWO;:1CAPITAL LETTER ESH;:1LETTER REVERSED ESH LOOP
:1SMALL LETTER T WITH PALATAL HOOK;:1CAPITAL LETTER T WITH HOOK;:1SMALL LETTER T WITH HOOK
:1CAPITAL LETTER T WITH RETROFLEX HOOK;:3U WITH HORN;:1SMALL LETTER U WITH HORN
:1CAPITAL LETTER UPSILON;:3V WITH HOOK;:3Y WITH HOOK;:1SMALL LETTER Y WITH HOOK
:1CAPITAL LETTER Z WITH STROKE;:1SMALL LETTER Z WITH STROKE;:1CAPITAL LETTER EZH;:4REVERSED
:1SMALL LETTER EZH REVERSED;:4WITH TAIL;:1LETTER TWO WITH STROKE;:1CAPITAL LETTER TONE FIVE
:1SMALL LETTER TONE FIVE;:1LETTER INVERTED GLOTTAL STOP WITH STROKE;:2WYNN;:2DENTAL CLICK
:2LATERAL CLICK;:2ALVEOLAR CLICK;:2RETROFLEX CLICK;:1CAPITAL LETTER DZ WITH CARON
:3D WITH SMALL LETTER Z WITH CARON;:1SMALL LETTER DZ WITH CARON;:1CAPITAL LETTER LJ
:3L WITH SMALL LETTER J;:1SMALL LETTER LJ;:1CAPITAL LETTER NJ;:3N WITH SMALL LETTER J
:1SMALL LETTER NJ;:1CAPITAL LETTER A WITH CARON;:1SMALL LETTER A WITH CARON
:1CAPITAL LETTER I WITH CARON;:1SMALL LETTER I WITH CARON;:1CAPITAL LETTER O WITH CARON
:1SMALL LETTER O WITH CARON;:1CAPITAL LETTER U WITH CARON;:1SMALL LETTER U WITH CARON
:1CAPITAL LETTER U WITH DIAERESIS AND MACRON;:1SMALL LETTER U WITH DIAERESIS AND MACRON
:1CAPITAL LETTER U WITH DIAERESIS AND ACUTE;:1SMALL LETTER U WITH DIAERESIS AND ACUTE
:1CAPITAL LETTER U WITH DIAERESIS AND CARON;:1SMALL LETTER U WITH DIAERESIS AND CARON
:1CAPITAL LETTER U WITH DIAERESIS AND GRAVE;:1SMALL LETTER U WITH DIAERESIS AND GRAVE;:3TURNED E
:1CAPITAL LETTER A WITH DIAERESIS AND MACRON;:1SMALL LETTER A WITH DIAERESIS AND MACRON
:1CAPITAL LETTER A WITH DOT ABOVE AND MACRON;:1SMALL LETTER A WITH DOT ABOVE AND MACRON
:1CAPITAL LETTER AE WITH MACRON;:1SMALL LETTER AE WITH MACRON;:1CAPITAL LETTER G WITH STROKE
:1SMALL LETTER G WITH STROKE;:1CAPITAL LETTER G WITH CARON;:1SMALL LETTER G WITH CARON
:1CAPITAL LETTER K WITH CARON;:1SMALL LETTER K WITH CARON;:1CAPITAL LETTER O WITH OGONEK
:1SMALL LETTER O WITH OGONEK;:1CAPITAL LETTER O WITH OGONEK AND MACRON
:1SMALL LETTER O WITH OGONEK AND MACRON;:1CAPITAL LETTER EZH WITH CARON
:1SMALL LETTER EZH WITH CARON;:3J WITH CARON;:1CAPITAL LETTER DZ;:3D WITH SMALL LETTER Z
:1SMALL LETTER DZ;:1CAPITAL LETTER G WITH ACUTE;:1SMALL LETTER G WITH ACUTE
:1CAPITAL LETTER HWAIR;:3WYNN;:3N WITH GRAVE;:1SMALL LETTER N WITH GRAVE
:1CAPITAL LETTER A WITH RING ABOVE AND ACUTE;:1SMALL LETTER A WITH RING ABOVE AND ACUTE
:1CAPITAL LETTER AE WITH ACUTE;:1SMALL LETTER AE WITH ACUTE
:1CAPITAL LETTER O WITH STROKE AND ACUTE;:1SMALL LETTER O WITH STROKE AND ACUTE
:1CAPITAL LETTER A WITH DOUBLE GRAVE;:1SMALL LETTER A WITH DOUBLE GRAVE
:1CAPITAL LETTER A WITH INVERTED BREVE;:1SMALL LETTER A WITH INVERTED BREVE
:1CAPITAL LETTER E WITH DOUBLE GRAVE;:1SMALL LETTER E WITH DOUBLE GRAVE
:1CAPITAL LETTER E WITH INVERTED BREVE;:1SMALL LETTER E WITH INVERTED BREVE
:1CAPITAL LETTER I WITH DOUBLE GRAVE;:1SMALL LETTER I WITH DOUBLE GRAVE
:1CAPITAL LETTER I WITH INVERTED BREVE;:1SMALL LETTER I WITH INVERTED BREVE
:1CAPITAL LETTER O WITH DOUBLE GRAVE;:1SMALL LETTER O WITH DOUBLE GRAVE
:1CAPITAL LETTER O WITH INVERTED BREVE;:1SMALL LETTER O WITH INVERTED BREVE
:1CAPITAL LETTER R WITH DOUBLE GRAVE;:1SMALL LETTER R WITH DOUBLE GRAVE
:1CAPITAL LETTER R WITH INVERTED BREVE;:1SMALL LETTER R WITH INVERTED BREVE
:1CAPITAL LETTER U WITH DOUBLE GRAVE;:1SMALL LETTER U WITH DOUBLE GRAVE
:1CAPITAL LETTER U WITH INVERTED BREVE;:1SMALL LETTER U WITH INVERTED BREVE
:1CAPITAL LETTER S WITH COMMA BELOW;:1SMALL LETTER S WITH COMMA BELOW
:1CAPITAL LETTER T WITH COMMA BELOW;:1SMALL LETTER T WITH COMMA BELOW;:1CAPITAL LETTER YOGH
:1SMALL LETTER YOGH;:1CAPITAL LETTER H WITH CARON;:1SMALL LETTER H WITH CARON
:1CAPITAL LETTER N WITH LONG RIGHT LEG;:1SMALL LETTER D WITH CURL;:1CAPITAL LETTER OU
:1SMALL LETTER OU;:1CAPITAL LETTER Z WITH HOOK;:1SMALL LETTER Z WITH HOOK
:1CAPITAL LETTER A WITH DOT ABOVE;:1SMALL LETTER A WITH DOT ABOVE;:1CAPITAL LETTER E WITH CEDILLA
:1SMALL LETTER E WITH CEDILLA;:1CAPITAL LETTER O WITH DIAERESIS AND MACRON
:1SMALL LETTER O WITH DIAERESIS AND MACRON;:1CAPITAL LETTER O WITH TILDE AND MACRON
:1SMALL LETTER O WITH TILDE AND MACRON;:1CAPITAL LETTER O WITH DOT ABOVE
:1SMALL LETTER O WITH DOT ABOVE;:1CAPITAL LETTER O WITH DOT ABOVE AND MACRON
:1SMALL LETTER O WITH DOT ABOVE AND MACRON;:1CAPITAL LETTER Y WITH MACRON
:1SMALL LETTER Y WITH MACRON;237:3DOTLESS J;250:3TURNED A;:3ALPHA;:3TURNED ALPHA;:3B WITH HOOK
:3OPEN O;:3C WITH CURL;:3D WITH TAIL;:5HOOK;:3REVERSED E;:3SCHWA;:4WITH HOOK;:3OPEN E
:3REVERSED OPEN E;:6WITH HOOK;:3CLOSED REVERSED OPEN E;:3DOTLESS J WITH STROKE;:3G WITH HOOK
:3SCRIPT G;:1LETTER SMALL CAPITAL G;:1SMALL LETTER GAMMA;:3RAMS HORN;:3TURNED H;:3H WITH HOOK
:3HENG WITH HOOK;:3I WITH STROKE;:3IOTA;:1LETTER SMALL CAPITAL I
:1SMALL LETTER L WITH MIDDLE TILDE;:5BELT;:5RETROFLEX HOOK;:3LEZH;:3TURNED M;:5WITH LONG LEG
:3M WITH HOOK;:3N WITH LEFT HOOK;:5RETROFLEX HOOK;:1LETTER SMALL CAPITAL N
:1SMALL LETTER BARRED O;:1LETTER SMALL CAPITAL OE;:1SMALL LETTER CLOSED OMEGA;:3PHI;:3TURNED R
:5WITH LONG LEG;:6HOOK;:3R WITH LONG LEG;:5TAIL;:5FISHHOOK;:3REVERSED R WITH FISHHOOK
:1LETTER SMALL CAPITAL R;:4INVERTED R;:1SMALL LETTER S WITH HOOK;:3ESH
:3DOTLESS J WITH STROKE AND HOOK;:3SQUAT REVERSED ESH;:3ESH WITH CURL;:3TURNED T
:3T WITH RETROFLEX HOOK;:3U BAR;:3UPSILON;:3V WITH HOOK;:3TURNED V;:4W;:4Y
:1LETTER SMALL CAPITAL Y;:1SMALL LETTER Z WITH RETROFLEX HOOK;:5CURL;:3EZH;:4WITH CURL
:1LETTER GLOTTAL STOP;:2PHARYNGEAL VOICED FRICATIVE;:2INVERTED GLOTTAL STOP;:2STRETCHED C
:2BILABIAL CLICK;:2SMALL CAPITAL B;:1SMALL LETTER CLOSED OPEN E
:1LETTER SMALL CAPITAL G WITH HOOK;:4H;:1SMALL LETTER J WITH CROSSED-TAIL;:3TURNED K
:1LETTER SMALL CAPITAL L;:1SMALL LETTER Q WITH HOOK;:1LETTER GLOTTAL STOP WITH STROKE
:2REVERSED GLOTTAL STOP WITH STROKE;:1SMALL LETTER DZ DIGRAPH;:3DEZH DIGRAPH
:3DZ DIGRAPH WITH CURL;:3TS DIGRAPH;:3TESH DIGRAPH;:3TC DIGRAPH WITH CURL;:3FENG DIGRAPH
:3LS DIGRAPH;:3LZ DIGRAPH;:1LETTER BILABIAL PERCUSSIVE;:2BIDENTAL PERCUSSIVE
:1SMALL LETTER TURNED H WITH FISHHOOK;:7AND TAIL;:0MODIFIER LETTER SMALL H;:4WITH HOOK;:3J;:3R
:3TURNED R;:5WITH HOOK;:3CAPITAL INVERTED R;:3W;:3Y;:2PRIME;:2DOUBLE PRIME;:2TURNED COMMA
:2APOSTROPHE;:2REVERSED COMMA;:2RIGHT HALF RING;:2LEFT HALF RING;:2GLOTTAL STOP
:2REVERSED GLOTTAL STOP;:2LEFT ARROWHEAD;:2RIGHT ARROWHEAD;:2UP ARROWHEAD;:2DOWN ARROWHEAD
:2CIRCUMFLEX ACCENT;:0CARON;:0MODIFIER LETTER VERTICAL LINE;:2MACRON;:2ACUTE ACCENT
:2GRAVE ACCENT;:2LOW VERTICAL LINE;:3MACRON;:3GRAVE ACCENT;:3ACUTE ACCENT;:2TRIANGULAR COLON
:2HALF TRIANGULAR COLON;:2CENTRED RIGHT HALF RING;:3LEFT HALF RING;:2UP TACK;:2DOWN TACK
:2PLUS SIGN;:2MINUS SIGN;:0BREVE;:0DOT ABOVE;:0RING ABOVE;:0OGONEK;:0SMALL TILDE
:0DOUBLE ACUTE ACCENT;:0MODIFIER LETTER RHOTIC HOOK;:2CROSS ACCENT;:2SMALL GAMMA;:3L;:3S;:3X
:3REVERSED GLOTTAL STOP;:2EXTRA-HIGH TONE BAR;:2HIGH TONE BAR;:2MID TONE BAR;:2LOW TONE BAR
:2EXTRA-LOW TONE BAR;:2YIN DEPARTING TONE MARK;:2YANG DEPARTING TONE MARK;:2VOICING;:2UNASPIRATED
:2DOUBLE APOSTROPHE;:2LOW DOWN ARROWHEAD;:3UP ARROWHEAD;:3LEFT ARROWHEAD;:3RIGHT ARROWHEAD;:3RING
:2MIDDLE GRAVE ACCENT;:3DOUBLE GRAVE ACCENT;:4ACUTE ACCENT;:2LOW TILDE;:2RAISED COLON
:2BEGIN HIGH TONE;:2END HIGH TONE;:2BEGIN LOW TONE;:2END LOW TONE;:2SHELF;:2OPEN SHELF
:2LOW LEFT ARROW;:0COMBINING GRAVE ACCENT;:1ACUTE ACCENT;:1CIRCUMFLEX ACCENT;:1TILDE;:1MACRON
:1OVERLINE;:1BREVE;:1DOT ABOVE;:1DIAERESIS;:1HOOK ABOVE;:1RING ABOVE;:1DOUBLE ACUTE ACCENT
:1CARON;:1VERTICAL LINE ABOVE;:1DOUBLE VERTICAL LINE ABOVE;:2GRAVE ACCENT;:1CANDRABINDU
:1INVERTED BREVE;:1TURNED COMMA ABOVE;:1COMMA ABOVE;:1REVERSED COMMA ABOVE;:1COMMA ABOVE RIGHT
:1GRAVE ACCENT BELOW;:1ACUTE ACCENT BELOW;:1LEFT TACK BELOW;:1RIGHT TACK BELOW;:1LEFT ANGLE ABOVE
:1HORN;:1LEFT HALF RING BELOW;:1UP TACK BELOW;:1DOWN TACK BELOW;:1PLUS SIGN BELOW
:1MINUS SIGN BELOW;:1PALATALIZED HOOK BELOW;:1RETROFLEX HOOK BELOW;:1DOT BELOW;:1DIAERESIS BELOW
:1RING BELOW;:1COMMA BELOW;:1CEDILLA;:1OGONEK;:1VERTICAL LINE BELOW;:1BRIDGE BELOW
:1INVERTED DOUBLE ARCH BELOW;:1CARON BELOW;:1CIRCUMFLEX ACCENT BELOW;:1BREVE BELOW
:1INVERTED BREVE BELOW;:1TILDE BELOW;:1MACRON BELOW;:1LOW LINE;:1DOUBLE LOW LINE;:1TILDE OVERLAY
:1SHORT STROKE OVERLAY;:1LONG STROKE OVERLAY;:1SHORT SOLIDUS OVERLAY;:1LONG SOLIDUS OVERLAY
:1RIGHT HALF RING BELOW;:1INVERTED BRIDGE BELOW;:1SQUARE BELOW;:1SEAGULL BELOW;:1X ABOVE
:1VERTICAL TILDE;:1DOUBLE OVERLINE;:1GRAVE TONE MARK;:1ACUTE TONE MARK;:1GREEK PERISPOMENI
:2KORONIS;:2DIALYTIKA TONOS;:2YPOGEGRAMMENI;:1BRIDGE ABOVE;:1EQUALS SIGN BELOW
:1DOUBLE VERTICAL LINE BELOW;:1LEFT ANGLE BELOW;:1NOT TILDE ABOVE;:1HOMOTHETIC ABOVE
:1ALMOST EQUAL TO ABOVE;:1LEFT RIGHT ARROW BELOW;:1UPWARDS ARROW BELOW;:1GRAPHEME JOINER
:1RIGHT ARROWHEAD ABOVE;:1LEFT HALF RING ABOVE;:1FERMATA;:1X BELOW;:1LEFT ARROWHEAD BELOW
:1RIGHT ARROWHEAD BELOW;:3AND UP ARROWHEAD BELOW;:2HALF RING ABOVE;:1DOT ABOVE RIGHT
:1ASTERISK BELOW;:1DOUBLE RING BELOW;:1ZIGZAG ABOVE;:1DOUBLE BREVE BELOW;:2BREVE;:2MACRON;:3BELOW
:2TILDE;:2INVERTED BREVE;:2RIGHTWARDS ARROW BELOW;:1LATIN SMALL LETTER A;:4E;:4I;:4O;:4U;:4C;:4D
:4H;:4M;:4R;:4T;:4V;:4X;:0GREEK CAPITAL LETTER HETA;:1SMALL LETTER HETA
:1CAPITAL LETTER ARCHAIC SAMPI;:1SMALL LETTER ARCHAIC SAMPI;:1NUMERAL SIGN;:1LOWER NUMERAL SIGN
:1CAPITAL LETTER PAMPHYLIAN DIGAMMA;:1SMALL LETTER PAMPHYLIAN DIGAMMA;37a:1YPOGEGRAMMENI
:1SMALL REVERSED LUNATE SIGMA SYMBOL;:2DOTTED LUNATE SIGMA SYMBOL
:2REVERSED DOTTED LUNATE SIGMA SYMBOL;:1QUESTION MARK;:1CAPITAL LETTER YOT;384:1TONOS
:1DIALYTIKA TONOS;:1CAPITAL LETTER ALPHA WITH TONOS;:1ANO TELEIA
:1CAPITAL LETTER EPSILON WITH TONOS;:3ETA WITH TONOS;:3IOTA WITH TONOS;38c:3OMICRON WITH TONOS
38e:3UPSILON WITH TONOS;:3OMEGA WITH TONOS;:1SMALL LETTER IOTA WITH DIALYTIKA AND TONOS
:1CAPITAL LETTER ALPHA;:3BETA;:3GAMMA;:3DELTA;:3EPSILON;:3ZETA;:3ETA;:3THETA;:3IOTA;:3KAPPA
:3LAMDA;:3MU;:3NU;:3XI;:3OMICRON;:3PI;:3RHO;3a3:3SIGMA;:3TAU;:3UPSILON;:3PHI;:3CHI;:3PSI;:3OMEGA
:3IOTA WITH DIALYTIKA;:3UPSILON WITH DIALYTIKA;:1SMALL LETTER ALPHA WITH TONOS
:3EPSILON WITH TONOS;:3ETA WITH TONOS;:3IOTA WITH TONOS;:3UPSILON WITH DIALYTIKA AND TONOS
:3ALPHA;:3BETA;:3GAMMA;:3DELTA;:3EPSILON;:3ZETA;:3ETA;:3THETA;:3IOTA;:3KAPPA;:3LAMDA;:3MU;:3NU
:3XI;:3OMICRON;:3PI;:3RHO;:3FINAL SIGMA;:3SIGMA;:3TAU;:3UPSILON;:3PHI;:3CHI;:3PSI;:3OMEGA
:3IOTA WITH DIALYTIKA;:3UPSILON WITH DIALYTIKA;:3OMICRON WITH TONOS;:3UPSILON WITH TONOS
:3OMEGA WITH TONOS;:1CAPITAL KAI SYMBOL;:1BETA SYMBOL;:1THETA SYMBOL;:1UPSILON WITH HOOK SYMBOL
:3ACUTE AND HOOK SYMBOL;:3DIAERESIS AND HOOK SYMBOL;:1PHI SYMBOL;:1PI SYMBOL;:1KAI SYMBOL
:1LETTER ARCHAIC KOPPA;:1SMALL LETTER ARCHAIC KOPPA;:1LETTER STIGMA;:1SMALL LETTER STIGMA
:1LETTER DIGAMMA;:1SMALL LETTER DIGAMMA;:1LETTER KOPPA;:1SMALL LETTER KOPPA;:1LETTER SAMPI
:1SMALL LETTER SAMPI;:0COPTIC CAPITAL LETTER SHEI;:1SMALL LETTER SHEI;:1CAPITAL LETTER FEI
:1SMALL LETTER FEI;:1CAPITAL LETTER KHEI;:1SMALL LETTER KHEI;:1CAPITAL LETTER HORI
:1SMALL LETTER HORI;:1CAPITAL LETTER GANGIA;:1SMALL LETTER GANGIA;:1CAPITAL LETTER SHIMA
:1SMALL LETTER SHIMA;:1CAPITAL LETTER DEI;:1SMALL LETTER DEI;:0GREEK KAPPA SYMBOL;:1RHO SYMBOL
:1LUNATE SIGMA SYMBOL;:1LETTER YOT;:1CAPITAL THETA SYMBOL;:1LUNATE EPSILON SYMBOL
:1REVERSED LUNATE EPSILON SYMBOL;:1CAPITAL LETTER SHO;:1SMALL LETTER SHO
:1CAPITAL LUNATE SIGMA SYMBOL;:2LETTER SAN;:1SMALL LETTER SAN;:1RHO WITH STROKE SYMBOL
:1CAPITAL REVERSED LUNATE SIGMA SYMBOL;:2DOTTED LUNATE SIGMA SYMBOL
:2REVERSED DOTTED LUNATE SIGMA SYMBOL;:0CYRILLIC CAPITAL LETTER IE WITH GRAVE;:3IO;:3DJE;:3GJE
:3UKRAINIAN IE;:3DZE;:3BYELORUSSIAN-UKRAINIAN I;:3YI;:3JE;:3LJE;:3NJE;:3TSHE;:3KJE;:3I WITH GRAVE
:3SHORT U;:3DZHE;:3A;:3BE;:3VE;:3GHE;:3DE;:3IE;:3ZHE;:3ZE;:3I;:3SHORT I;:3KA;:3EL;:3EM;:3EN;:3O
:3PE;:3ER;:3ES;:3TE;:3U;:3EF;:3HA;:3TSE;:3CHE;:3SHA;:3SHCHA;:3HARD SIGN;:3YERU;:3SOFT SIGN;:3E
:3YU;:3YA;:1SMALL LETTER A;:3BE;:3VE;:3GHE;:3DE;:3IE;:3ZHE;:3ZE;:3I;:3SHORT I;:3KA;:3EL;:3EM;:3EN
:3O;:3PE;:3ER;:3ES;:3TE;:3U;:3EF;:3HA;:3TSE;:3CHE;:3SHA;:3SHCHA;:3HARD SIGN;:3YERU;:3SOFT SIGN
:3E;:3YU;:3YA;:3IE WITH GRAVE;:3IO;:3DJE;:3GJE;:3UKRAINIAN IE;:3DZE;:3BYELORUSSIAN-UKRAINIAN I
:3YI;:3JE;:3LJE;:3NJE;:3TSHE;:3KJE;:3I WITH GRAVE;:3SHORT U;:3DZHE;:1CAPITAL LETTER OMEGA
:1SMALL LETTER OMEGA;:1CAPITAL LETTER YAT;:1SMALL LETTER YAT;:1CAPITAL LETTER IOTIFIED E
:1SMALL LETTER IOTIFIED E;:1CAPITAL LETTER LITTLE YUS;:1SMALL LETTER LITTLE YUS
:1CAPITAL LETTER IOTIFIED LITTLE YUS;:1SMALL LETTER IOTIFIED LITTLE YUS;:1CAPITAL LETTER BIG YUS
:1SMALL LETTER BIG YUS;:1CAPITAL LETTER IOTIFIED BIG YUS;:1SMALL LETTER IOTIFIED BIG YUS
:1CAPITAL LETTER KSI;:1SMALL LETTER KSI;:1CAPITAL LETTER PSI;:1SMALL LETTER PSI
:1CAPITAL LETTER FITA;:1SMALL LETTER FITA;:1CAPITAL LETTER IZHITSA;:1SMALL LETTER IZHITSA
:1CAPITAL LETTER IZHITSA WITH DOUBLE GRAVE ACCENT;:1SMALL LETTER IZHITSA WITH DOUBLE GRAVE ACCENT
:1CAPITAL LETTER UK;:1SMALL LETTER UK;:1CAPITAL LETTER ROUND OMEGA;:1SMALL LETTER ROUND OMEGA
:1CAPITAL LETTER OMEGA WITH TITLO;:1SMALL LETTER OMEGA WITH TITLO;:1CAPITAL LETTER OT
:1SMALL LETTER OT;:1CAPITAL LETTER KOPPA;:1SMALL LETTER KOPPA;:1THOUSANDS SIGN
:0COMBINING CYRILLIC TITLO;:2PALATALIZATION;:2DASIA PNEUMATA;:2PSILI PNEUMATA;:2POKRYTIE
:2HUNDRED THOUSANDS SIGN;:2MILLIONS SIGN;:0CYRILLIC CAPITAL LETTER SHORT I WITH TAIL
:1SMALL LETTER SHORT I WITH TAIL;:1CAPITAL LETTER SEMISOFT SIGN;:1SMALL LETTER SEMISOFT SIGN
:1CAPITAL LETTER ER WITH TICK;:1SMALL LETTER ER WITH TICK;:1CAPITAL LETTER GHE WITH UPTURN
:1SMALL LETTER GHE WITH UPTURN;:1CAPITAL LETTER GHE WITH STROKE;:1SMALL LETTER GHE WITH STROKE
:1CAPITAL LETTER GHE WITH MIDDLE HOOK;:1SMALL LETTER GHE WITH MIDDLE HOOK
:1CAPITAL LETTER ZHE WITH DESCENDER;:1SMALL LETTER ZHE WITH DESCENDER
:1CAPITAL LETTER ZE WITH DESCENDER;:1SMALL LETTER ZE WITH DESCENDER
:1CAPITAL LETTER KA WITH DESCENDER;:1SMALL LETTER KA WITH DESCENDER
:1CAPITAL LETTER KA WITH VERTICAL STROKE;:1SMALL LETTER KA WITH VERTICAL STROKE
:1CAPITAL LETTER KA WITH STROKE;:1SMALL LETTER KA WITH STROKE;:1CAPITAL LETTER BASHKIR KA
:1SMALL LETTER BASHKIR KA;:1CAPITAL LETTER EN WITH DESCENDER;:1SMALL LETTER EN WITH DESCENDER
:1CAPITAL LIGATURE EN GHE;:1SMALL LIGATURE EN GHE;:1CAPITAL LETTER PE WITH MIDDLE HOOK
:1SMALL LETTER PE WITH MIDDLE HOOK;:1CAPITAL LETTER ABKHASIAN HA;:1SMALL LETTER ABKHASIAN HA
:1CAPITAL LETTER ES WITH DESCENDER;:1SMALL LETTER ES WITH DESCENDER
:1CAPITAL LETTER TE WITH DESCENDER;:1SMALL LETTER TE WITH DESCENDER;:1CAPITAL LETTER STRAIGHT U
:1SMALL LETTER STRAIGHT U;:1CAPITAL LETTER STRAIGHT U WITH STROKE
:1SMALL LETTER STRAIGHT U WITH STROKE;:1CAPITAL LETTER HA WITH DESCENDER
:1SMALL LETTER HA WITH DESCENDER;:1CAPITAL LIGATURE TE TSE;:1SMALL LIGATURE TE TSE
:1CAPITAL LETTER CHE WITH DESCENDER;:1SMALL LETTER CHE WITH DESCENDER
:1CAPITAL LETTER CHE WITH VERTICAL STROKE;:1SMALL LETTER CHE WITH VERTICAL STROKE
:1CAPITAL LETTER SHHA;:1SMALL LETTER SHHA;:1CAPITAL LETTER ABKHASIAN CHE
:1SMALL LETTER ABKHASIAN CHE;:1CAPITAL LETTER ABKHASIAN CHE WITH DESCENDER
:1SMALL LETTER ABKHASIAN CHE WITH DESCENDER;:1LETTER PALOCHKA;:1CAPITAL LETTER ZHE WITH BREVE
:1SMALL LETTER ZHE WITH BREVE;:1CAPITAL LETTER KA WITH HOOK;:1SMALL LETTER KA WITH HOOK
:1CAPITAL LETTER EL WITH TAIL;:1SMALL LETTER EL WITH TAIL;:1CAPITAL LETTER EN WITH HOOK
:1SMALL LETTER EN WITH HOOK;:1CAPITAL LETTER EN WITH TAIL;:1SMALL LETTER EN WITH TAIL
:1CAPITAL LETTER KHAKASSIAN CHE;:1SMALL LETTER KHAKASSIAN CHE;:1CAPITAL LETTER EM WITH TAIL
:1SMALL LETTER EM WITH TAIL;:3PALOCHKA;:1CAPITAL LETTER A WITH BREVE;:1SMALL LETTER A WITH BREVE
:1CAPITAL LETTER A WITH DIAERESIS;:1SMALL LETTER A WITH DIAERESIS;:1CAPITAL LIGATURE A IE
:1SMALL LIGATURE A IE;:1CAPITAL LETTER IE WITH BREVE;:1SMALL LETTER IE WITH BREVE
:1CAPITAL LETTER SCHWA;:1SMALL LETTER SCHWA;:1CAPITAL LETTER SCHWA WITH DIAERESIS
:1SMALL LETTER SCHWA WITH DIAERESIS;:1CAPITAL LETTER ZHE WITH DIAERESIS
:1SMALL LETTER ZHE WITH DIAERESIS;:1CAPITAL LETTER ZE WITH DIAERESIS
:1SMALL LETTER ZE WITH DIAERESIS;:1CAPITAL LETTER ABKHASIAN DZE;:1SMALL LETTER ABKHASIAN DZE
:1CAPITAL LETTER I WITH MACRON;:1SMALL LETTER I WITH MACRON;:1CAPITAL LETTER I WITH DIAERESIS
:1SMALL LETTER I WITH DIAERESIS;:1CAPITAL LETTER O WITH DIAERESIS;:1SMALL LETTER O WITH DIAERESIS
:1CAPITAL LETTER BARRED O;:1SMALL LETTER BARRED O;:1CAPITAL LETTER BARRED O WITH DIAERESIS
:1SMALL LETTER BARRED O WITH DIAERESIS;:1CAPITAL LETTER E WITH DIAERESIS
:1SMALL LETTER E WITH DIAERESIS;:1CAPITAL LETTER U WITH MACRON;:1SMALL LETTER U WITH MACRON
:1CAPITAL LETTER U WITH DIAERESIS;:1SMALL LETTER U WITH DIAERESIS
:1CAPITAL LETTER U WITH DOUBLE ACUTE;:1SMALL LETTER U WITH DOUBLE ACUTE
:1CAPITAL LETTER CHE WITH DIAERESIS;:1SMALL LETTER CHE WITH DIAERESIS
:1CAPITAL LETTER GHE WITH DESCENDER;:1SMALL LETTER GHE WITH DESCENDER
:1CAPITAL LETTER YERU WITH DIAERESIS;:1SMALL LETTER YERU WITH DIAERESIS
:1CAPITAL LETTER GHE WITH STROKE AND HOOK;:1SMALL LETTER GHE WITH STROKE AND HOOK
:1CAPITAL LETTER HA WITH HOOK;:1SMALL LETTER HA WITH HOOK;:1CAPITAL LETTER HA WITH STROKE
:1SMALL LETTER HA WITH STROKE;531:0ARMENIAN CAPITAL LETTER AYB;:3BEN;:3GIM;:3DA;:3ECH;:3ZA;:3EH
:3ET;:3TO;:3ZHE;:3INI;:3LIWN;:3XEH;:3CA;:3KEN;:3HO;:3JA;:3GHAD;:3CHEH;:3MEN;:3YI;:3NOW;:3SHA;:3VO
:3CHA;:3PEH;:3JHEH;:3RA;:3SEH;:3VEW;:3TIWN;:3REH;:3CO;:3YIWN;:3PIWR;:3KEH;:3OH;:3FEH
561:1SMALL LETTER AYB;:3BEN;:3GIM;:3DA;:3ECH;:3ZA;:3EH;:3ET;:3TO;:3ZHE;:3INI;:3LIWN;:3XEH;:3CA
:3KEN;:3HO;:3JA;:3GHAD;:3CHEH;:3MEN;:3YI;:3NOW;:3SHA;:3VO;:3CHA;:3PEH;:3JHEH;:3RA;:3SEH;:3VEW
:3TIWN;:3REH;:3CO;:3YIWN;:3PIWR;:3KEH;:3OH;:3FEH;:2LIGATURE ECH YIWN;5d0:0HEBREW LETTER ALEF
:2BET;:2GIMEL;:2DALET;:2HE;:2VAV;:2ZAYIN;:2HET;:2TET;:2YOD;:2FINAL KAF;:2KAF;:2LAMED;:2FINAL MEM
:2MEM;:2FINAL NUN;:2NUN;:2SAMEKH;:2AYIN;:2FINAL PE;:2PE;:2FINAL TSADI;:2TSADI;:2QOF;:2RESH;:2SHIN
:2TAV;600:0ARABIC NUMBER SIGN;:1SIGN SANAH;:1FOOTNOTE MARKER;:1SIGN SAFHA;:2SAMVAT
:1NUMBER MARK ABOVE;:0ARABIC-INDIC CUBE ROOT;:1FOURTH ROOT;:0ARABIC RAY
:0ARABIC-INDIC PER MILLE SIGN;:2TEN THOUSAND SIGN;:0AFGHANI SIGN;:0ARABIC COMMA;:1DATE SEPARATOR
:1POETIC VERSE SIGN;:1SIGN MISRA;:2SALLALLAHOU ALAYHE WASSALLAM;:2ALAYHE ASSALLAM
:2RAHMATULLAH ALAYHE;:2RADI ALLAHOU ANHU;:2TAKHALLUS;:1SMALL HIGH TAH
:3LIGATURE ALEF WITH LAM WITH YEH;:3ZAIN;:2FATHA;:2DAMMA;:2KASRA;:1SEMICOLON;:1LETTER MARK
:1END OF TEXT MARK;:1TRIPLE DOT PUNCTUATION MARK;:1QUESTION MARK;:1LETTER KASHMIRI YEH;:2HAMZA
:2ALEF WITH MADDA ABOVE;:4HAMZA ABOVE;:2WAW WITH HAMZA ABOVE;:2ALEF WITH HAMZA BELOW
:2YEH WITH HAMZA ABOVE;:2ALEF;:2BEH;:2TEH MARBUTA;:2TEH;:2THEH;:2JEEM;:2HAH;:2KHAH;:2DAL;:2THAL
:2REH;:2ZAIN;:2SEEN;:2SHEEN;:2SAD;:2DAD;:2TAH;:2ZAH;:2AIN;:2GHAIN;:2KEHEH WITH TWO DOTS ABOVE
:4THREE DOTS BELOW;:2FARSI YEH WITH INVERTED V;:5TWO DOTS ABOVE;:5THREE DOTS ABOVE;:1TATWEEL
:1LETTER FEH;:2QAF;:2KAF;:2LAM;:2MEEM;:2NOON;:2HEH;:2WAW;:2ALEF MAKSURA;:2YEH;:1FATHATAN
:1DAMMATAN;:1KASRATAN;:1FATHA;:1DAMMA;:1KASRA;:1SHADDA;:1SUKUN;:1MADDAH ABOVE;:1HAMZA ABOVE
:2BELOW;:1SUBSCRIPT ALEF;:1INVERTED DAMMA;:1MARK NOON GHUNNA;:1ZWARAKAY
:1VOWEL SIGN SMALL V ABOVE;:3INVERTED SMALL V ABOVE;:3DOT BELOW;:1REVERSED DAMMA
:1FATHA WITH TWO DOTS;:1WAVY HAMZA BELOW;:0ARABIC-INDIC DIGIT ZERO;:2ONE;:2TWO;:2THREE;:2FOUR
:2FIVE;:2SIX;:2SEVEN;:2EIGHT;:2NINE;905:0DEVANAGARI LETTER A;:2AA;:2I;:2II;:2U;:2UU;:2VOCALIC R
:3L;:2CANDRA E;:2SHORT E;:2E;:2AI;:2CANDRA O;:2SHORT O;:2O;:2AU;:2KA;:2KHA;:2GA;:2GHA;:2NGA;:2CA
:2CHA;:2JA;:2JHA;:2NYA;:2TTA;:2TTHA;:2DDA;:2DDHA;:2NNA;:2TA;:2THA;:2DA;:2DHA;:2NA;:2NNNA;:2PA
:2PHA;:2BA;:2BHA;:2MA;:2YA;:2RA;:2RRA;:2LA;:2LLA;:2LLLA;:2VA;:2SHA;:2SSA;:2SA;:2HA
966:1DIGIT ZERO;:2ONE;:2TWO;:2THREE;:2FOUR;:2FIVE;:2SIX;:2SEVEN;:2EIGHT;:2NINE
e01:0THAI CHARACTER KO KAI;:2KHO KHAI;:3KHUAT;:3KHWAI;:3KHON;:3RAKHANG;:2NGO NGU;:2CHO CHAN
:3CHING;:3CHANG;:2SO SO;:2CHO CHOE;:2YO YING;:2DO CHADA;:2TO PATAK;:2THO THAN;:3NANGMONTHO
:3PHUTHAO;:2NO NEN;:2DO DEK;:2TO TAO;:2THO THUNG;:3THAHAN;:3THONG;:2NO NU;:2BO BAIMAI;:2PO PLA
:2PHO PHUNG;:2FO FA;:2PHO PHAN;:2FO FAN;:2PHO SAMPHAO;:2MO MA;:2YO YAK;:2RO RUA;:2RU;:2LO LING
:2LU;:2WO WAEN;:2SO SALA;:3RUSI;:3SUA;:2HO HIP;:2LO CHULA;:2O ANG;:2HO NOKHUK;:2PAIYANNOI
:2SARA A;:2MAI HAN-AKAT;:2SARA AA;:3AM;:3I;:3II;:3UE;:3UEE;:3U;:3UU;:2PHINTHU
e3f:1CURRENCY SYMBOL BAHT;:1CHARACTER SARA E;:3AE;:3O;:3AI MAIMUAN;:4MAIMALAI;:2LAKKHANGYAO
:2MAIYAMOK;:2MAITAIKHU;:2MAI EK;:3THO;:3TRI;:3CHATTAWA;:2THANTHAKHAT;:2NIKHAHIT;:2YAMAKKAN
:2FONGMAN;:1DIGIT ZERO;:2ONE;:2TWO;:2THREE;:2FOUR;:2FIVE;:2SIX;:2SEVEN;:2EIGHT;:2NINE
:1CHARACTER ANGKHANKHU;:2KHOMUT;10d0:0GEORGIAN LETTER AN;:2BAN;:2GAN;:2DON;:2EN;:2VIN;:2ZEN;:2TAN
:2IN;:2KAN;:2LAS;:2MAN;:2NAR;:2ON;:2PAR;:2ZHAR;:2RAE;:2SAN;:2TAR;:2UN;:2PHAR;:2KHAR;:2GHAN;:2QAR
:2SHIN;:2CHIN;:2CAN;:2JIL;:2CIL;:2CHAR;:2XAN;:2JHAN;:2HAE;:2HE;:2HIE;:2WE;:2HAR;:2HOE;:2FI;:2YN
:2ELIFI;:2TURNED GAN;:2AIN;:1PARAGRAPH SEPARATOR;:0MODIFIER LETTER GEORGIAN NAR
:0GEORGIAN LETTER AEN;:2HARD SIGN;:2LABIAL SIGN;1e00:0LATIN CAPITAL LETTER A WITH RING BELOW
:1SMALL LETTER A WITH RING BELOW;:1CAPITAL LETTER B WITH DOT ABOVE
:1SMALL LETTER B WITH DOT ABOVE;:1CAPITAL LETTER B WITH DOT BELOW;:1SMALL LETTER B WITH DOT BELOW
:1CAPITAL LETTER B WITH LINE BELOW;:1SMALL LETTER B WITH LINE BELOW
:1CAPITAL LETTER C WITH CEDILLA AND ACUTE;:1SMALL LETTER C WITH CEDILLA AND ACUTE
:1CAPITAL LETTER D WITH DOT ABOVE;:1SMALL LETTER D WITH DOT ABOVE
:1CAPITAL LETTER D WITH DOT BELOW;:1SMALL LETTER D WITH DOT BELOW
:1CAPITAL LETTER D WITH LINE BELOW;:1SMALL LETTER D WITH LINE BELOW
:1CAPITAL LETTER D WITH CEDILLA;:1SMALL LETTER D WITH CEDILLA
:1CAPITAL LETTER D WITH CIRCUMFLEX BELOW;:1SMALL LETTER D WITH CIRCUMFLEX BELOW
:1CAPITAL LETTER E WITH MACRON AND GRAVE;:1SMALL LETTER E WITH MACRON AND GRAVE
:1CAPITAL LETTER E WITH MACRON AND ACUTE;:1SMALL LETTER E WITH MACRON AND ACUTE
:1CAPITAL LETTER E WITH CIRCUMFLEX BELOW;:1SMALL LETTER E WITH CIRCUMFLEX BELOW
:1CAPITAL LETTER E WITH TILDE BELOW;:1SMALL LETTER E WITH TILDE BELOW
:1CAPITAL LETTER E WITH CEDILLA AND BREVE;:1SMALL LETTER E WITH CEDILLA AND BREVE
:1CAPITAL LETTER F WITH DOT ABOVE;:1SMALL LETTER F WITH DOT ABOVE;:1CAPITAL LETTER G WITH MACRON
:1SMALL LETTER G WITH MACRON;:1CAPITAL LETTER H WITH DOT ABOVE;:1SMALL LETTER H WITH DOT ABOVE
:1CAPITAL LETTER H WITH DOT BELOW;:1SMALL LETTER H WITH DOT BELOW
:1CAPITAL LETTER H WITH DIAERESIS;:1SMALL LETTER H WITH DIAERESIS;:1CAPITAL LETTER H WITH CEDILLA
:1SMALL LETTER H WITH CEDILLA;:1CAPITAL LETTER H WITH BREVE BELOW
:1SMALL LETTER H WITH BREVE BELOW;:1CAPITAL LETTER I WITH TILDE BELOW
:1SMALL LETTER I WITH TILDE BELOW;:1CAPITAL LETTER I WITH DIAERESIS AND ACUTE
:1SMALL LETTER I WITH DIAERESIS AND ACUTE;:1CAPITAL LETTER K WITH ACUTE
:1SMALL LETTER K WITH ACUTE;:1CAPITAL LETTER K WITH DOT BELOW;:1SMALL LETTER K WITH DOT BELOW
:1CAPITAL LETTER K WITH LINE BELOW;:1SMALL LETTER K WITH LINE BELOW
:1CAPITAL LETTER L WITH DOT BELOW;:1SMALL LETTER L WITH DOT BELOW
:1CAPITAL LETTER L WITH DOT BELOW AND MACRON;:1SMALL LETTER L WITH DOT BELOW AND MACRON
:1CAPITAL LETTER L WITH LINE BELOW;:1SMALL LETTER L WITH LINE BELOW
:1CAPITAL LETTER L WITH CIRCUMFLEX BELOW;:1SMALL LETTER L WITH CIRCUMFLEX BELOW
:1CAPITAL LETTER M WITH ACUTE;:1SMALL LETTER M WITH ACUTE;:1CAPITAL LETTER M WITH DOT ABOVE
:1SMALL LETTER M WITH DOT ABOVE;:1CAPITAL LETTER M WITH DOT BELOW;:1SMALL LETTER M WITH DOT BELOW
:1CAPITAL LETTER N WITH DOT ABOVE;:1SMALL LETTER N WITH DOT ABOVE
:1CAPITAL LETTER N WITH DOT BELOW;:1SMALL LETTER N WITH DOT BELOW
:1CAPITAL LETTER N WITH LINE BELOW;:1SMALL LETTER N WITH LINE BELOW
:1CAPITAL LETTER N WITH CIRCUMFLEX BELOW;:1SMALL LETTER N WITH CIRCUMFLEX BELOW
:1CAPITAL LETTER O WITH TILDE AND ACUTE;:1SMALL LETTER O WITH TILDE AND ACUTE
:1CAPITAL LETTER O WITH TILDE AND DIAERESIS;:1SMALL LETTER O WITH TILDE AND DIAERESIS
:1CAPITAL LETTER O WITH MACRON AND GRAVE;:1SMALL LETTER O WITH MACRON AND GRAVE
:1CAPITAL LETTER O WITH MACRON AND ACUTE;:1SMALL LETTER O WITH MACRON AND ACUTE
:1CAPITAL LETTER P WITH ACUTE;:1SMALL LETTER P WITH ACUTE;:1CAPITAL LETTER P WITH DOT ABOVE
:1SMALL LETTER P WITH DOT ABOVE;:1CAPITAL LETTER R WITH DOT ABOVE;:1SMALL LETTER R WITH DOT ABOVE
:1CAPITAL LETTER R WITH DOT BELOW;:1SMALL LETTER R WITH DOT BELOW
:1CAPITAL LETTER R WITH DOT BELOW AND MACRON;:1SMALL LETTER R WITH DOT BELOW AND MACRON
:1CAPITAL LETTER R WITH LINE BELOW;:1SMALL LETTER R WITH LINE BELOW
:1CAPITAL LETTER S WITH DOT ABOVE;:1SMALL LETTER S WITH DOT ABOVE
:1CAPITAL LETTER S WITH DOT BELOW;:1SMALL LETTER S WITH DOT BELOW
:1CAPITAL LETTER S WITH ACUTE AND DOT ABOVE;:1SMALL LETTER S WITH ACUTE AND DOT ABOVE
:1CAPITAL LETTER S WITH CARON AND DOT ABOVE;:1SMALL LETTER S WITH CARON AND DOT ABOVE
:1CAPITAL LETTER S WITH DOT BELOW AND DOT ABOVE;:1SMALL LETTER S WITH DOT BELOW AND DOT ABOVE
:1CAPITAL LETTER T WITH DOT ABOVE;:1SMALL LETTER T WITH DOT ABOVE
:1CAPITAL LETTER T WITH DOT BELOW;:1SMALL LETTER T WITH DOT BELOW
:1CAPITAL LETTER T WITH LINE BELOW;:1SMALL LETTER T WITH LINE BELOW
:1CAPITAL LETTER T WITH CIRCUMFLEX BELOW;:1SMALL LETTER T WITH CIRCUMFLEX BELOW
:1CAPITAL LETTER U WITH DIAERESIS BELOW;:1SMALL LETTER U WITH DIAERESIS BELOW
:1CAPITAL LETTER U WITH TILDE BELOW;:1SMALL LETTER U WITH TILDE BELOW
:1CAPITAL LETTER U WITH CIRCUMFLEX BELOW;:1SMALL LETTER U WITH CIRCUMFLEX BELOW
:1CAPITAL LETTER U WITH TILDE AND ACUTE;:1SMALL LETTER U WITH TILDE AND ACUTE
:1CAPITAL LETTER U WITH MACRON AND DIAERESIS;:1SMALL LETTER U WITH MACRON AND DIAERESIS
:1CAPITAL LETTER V WITH TILDE;:1SMALL LETTER V WITH TILDE;:1CAPITAL LETTER V WITH DOT BELOW
:1SMALL LETTER V WITH DOT BELOW;:1CAPITAL LETTER W WITH GRAVE;:1SMALL LETTER W WITH GRAVE
:1CAPITAL LETTER W WITH ACUTE;:1SMALL LETTER W WITH ACUTE;:1CAPITAL LETTER W WITH DIAERESIS
:1SMALL LETTER W WITH DIAERESIS;:1CAPITAL LETTER W WITH DOT ABOVE;:1SMALL LETTER W WITH DOT ABOVE
:1CAPITAL LETTER W WITH DOT BELOW;:1SMALL LETTER W WITH DOT BELOW
:1CAPITAL LETTER X WITH DOT ABOVE;:1SMALL LETTER X WITH DOT ABOVE
:1CAPITAL LETTER X WITH DIAERESIS;:1SMALL LETTER X WITH DIAERESIS
:1CAPITAL LETTER Y WITH DOT ABOVE;:1SMALL LETTER Y WITH DOT ABOVE
:1CAPITAL LETTER Z WITH CIRCUMFLEX;:1SMALL LETTER Z WITH CIRCUMFLEX
:1CAPITAL LETTER Z WITH DOT BELOW;:1SMALL LETTER Z WITH DOT BELOW
:1CAPITAL LETTER Z WITH LINE BELOW;:1SMALL LETTER Z WITH LINE BELOW;:3H WITH LINE BELOW
:3T WITH DIAERESIS;:3W WITH RING ABOVE;:3Y WITH RING ABOVE;:3A WITH RIGHT HALF RING
:3LONG S WITH DOT ABOVE;:6DIAGONAL STROKE;:6HIGH STROKE;:1CAPITAL LETTER SHARP S
:1SMALL LETTER DELTA;:1CAPITAL LETTER A WITH DOT BELOW;:1SMALL LETTER A WITH DOT BELOW
:1CAPITAL LETTER A WITH HOOK ABOVE;:1SMALL LETTER A WITH HOOK ABOVE
:1CAPITAL LETTER A WITH CIRCUMFLEX AND ACUTE;:1SMALL LETTER A WITH CIRCUMFLEX AND ACUTE
:1CAPITAL LETTER A WITH CIRCUMFLEX AND GRAVE;:1SMALL LETTER A WITH CIRCUMFLEX AND GRAVE
:1CAPITAL LETTER A WITH CIRCUMFLEX AND HOOK ABOVE;:1SMALL LETTER A WITH CIRCUMFLEX AND HOOK ABOVE
:1CAPITAL LETTER A WITH CIRCUMFLEX AND TILDE;:1SMALL LETTER A WITH CIRCUMFLEX AND TILDE
:1CAPITAL LETTER A WITH CIRCUMFLEX AND DOT BELOW;:1SMALL LETTER A WITH CIRCUMFLEX AND DOT BELOW
:1CAPITAL LETTER A WITH BREVE AND ACUTE;:1SMALL LETTER A WITH BREVE AND ACUTE
:1CAPITAL LETTER A WITH BREVE AND GRAVE;:1SMALL LETTER A WITH BREVE AND GRAVE
:1CAPITAL LETTER A WITH BREVE AND HOOK ABOVE;:1SMALL LETTER A WITH BREVE AND HOOK ABOVE
:1CAPITAL LETTER A WITH BREVE AND TILDE;:1SMALL LETTER A WITH BREVE AND TILDE
:1CAPITAL LETTER A WITH BREVE AND DOT BELOW;:1SMALL LETTER A WITH BREVE AND DOT BELOW
:1CAPITAL LETTER E WITH DOT BELOW;:1SMALL LETTER E WITH DOT BELOW
:1CAPITAL LETTER E WITH HOOK ABOVE;:1SMALL LETTER E WITH HOOK ABOVE;:1CAPITAL LETTER E WITH TILDE
:1SMALL LETTER E WITH TILDE;:1CAPITAL LETTER E WITH CIRCUMFLEX AND ACUTE
:1SMALL LETTER E WITH CIRCUMFLEX AND ACUTE;:1CAPITAL LETTER E WITH CIRCUMFLEX AND GRAVE
:1SMALL LETTER E WITH CIRCUMFLEX AND GRAVE;:1CAPITAL LETTER E WITH CIRCUMFLEX AND HOOK ABOVE
:1SMALL LETTER E WITH CIRCUMFLEX AND HOOK ABOVE;:1CAPITAL LETTER E WITH CIRCUMFLEX AND TILDE
:1SMALL LETTER E WITH CIRCUMFLEX AND TILDE;:1CAPITAL LETTER E WITH CIRCUMFLEX AND DOT BELOW
:1SMALL LETTER E WITH CIRCUMFLEX AND DOT BELOW;:1CAPITAL LETTER I WITH HOOK ABOVE
:1SMALL LETTER I WITH HOOK ABOVE;:1CAPITAL LETTER I WITH DOT BELOW
:1SMALL LETTER I WITH DOT BELOW;:1CAPITAL LETTER O WITH DOT BELOW;:1SMALL LETTER O WITH DOT BELOW
:1CAPITAL LETTER O WITH HOOK ABOVE;:1SMALL LETTER O WITH HOOK ABOVE
:1CAPITAL LETTER O WITH CIRCUMFLEX AND ACUTE;:1SMALL LETTER O WITH CIRCUMFLEX AND ACUTE
:1CAPITAL LETTER O WITH CIRCUMFLEX AND GRAVE;:1SMALL LETTER O WITH CIRCUMFLEX AND GRAVE
:1CAPITAL LETTER O WITH CIRCUMFLEX AND HOOK ABOVE;:1SMALL LETTER O WITH CIRCUMFLEX AND HOOK ABOVE
:1CAPITAL LETTER O WITH CIRCUMFLEX AND TILDE;:1SMALL LETTER O WITH CIRCUMFLEX AND TILDE
:1CAPITAL LETTER O WITH CIRCUMFLEX AND DOT BELOW;:1SMALL LETTER O WITH CIRCUMFLEX AND DOT BELOW
:1CAPITAL LETTER O WITH HORN AND ACUTE;:1SMALL LETTER O WITH HORN AND ACUTE
:1CAPITAL LETTER O WITH HORN AND GRAVE;:1SMALL LETTER O WITH HORN AND GRAVE
:1CAPITAL LETTER O WITH HORN AND HOOK ABOVE;:1SMALL LETTER O WITH HORN AND HOOK ABOVE
:1CAPITAL LETTER O WITH HORN AND TILDE;:1SMALL LETTER O WITH HORN AND TILDE
:1CAPITAL LETTER O WITH HORN AND DOT BELOW;:1SMALL LETTER O WITH HORN AND DOT BELOW
:1CAPITAL LETTER U WITH DOT BELOW;:1SMALL LETTER U WITH DOT BELOW
:1CAPITAL LETTER U WITH HOOK ABOVE;:1SMALL LETTER U WITH HOOK ABOVE
:1CAPITAL LETTER U WITH HORN AND ACUTE;:1SMALL LETTER U WITH HORN AND ACUTE
:1CAPITAL LETTER U WITH HORN AND GRAVE;:1SMALL LETTER U WITH HORN AND GRAVE
:1CAPITAL LETTER U WITH HORN AND HOOK ABOVE;:1SMALL LETTER U WITH HORN AND HOOK ABOVE
:1CAPITAL LETTER U WITH HORN AND TILDE;:1SMALL LETTER U WITH HORN AND TILDE
:1CAPITAL LETTER U WITH HORN AND DOT BELOW;:1SMALL LETTER U WITH HORN AND DOT BELOW
:1CAPITAL LETTER Y WITH GRAVE;:1SMALL LETTER Y WITH GRAVE;:1CAPITAL LETTER Y WITH DOT BELOW
:1SMALL LETTER Y WITH DOT BELOW;:1CAPITAL LETTER Y WITH HOOK ABOVE
:1SMALL LETTER Y WITH HOOK ABOVE;:1CAPITAL LETTER Y WITH TILDE;:1SMALL LETTER Y WITH TILDE
:1CAPITAL LETTER MIDDLE-WELSH LL;:1SMALL LETTER MIDDLE-WELSH LL;:1CAPITAL LETTER MIDDLE-WELSH V
:1SMALL LETTER MIDDLE-WELSH V;:1CAPITAL LETTER Y WITH LOOP;:1SMALL LETTER Y WITH LOOP
:0GREEK SMALL LETTER ALPHA WITH PSILI;:5DASIA;:5PSILI AND VARIA;:5DASIA AND VARIA
:5PSILI AND OXIA;:5DASIA AND OXIA;:5PSILI AND PERISPOMENI;:5DASIA AND PERISPOMENI
:1CAPITAL LETTER ALPHA WITH PSILI;:5DASIA;:5PSILI AND VARIA;:5DASIA AND VARIA;:5PSILI AND OXIA
:5DASIA AND OXIA;:5PSILI AND PERISPOMENI;:5DASIA AND PERISPOMENI
:1SMALL LETTER EPSILON WITH PSILI;:5DASIA;:5PSILI AND VARIA;:5DASIA AND VARIA;:5PSILI AND OXIA
:5DASIA AND OXIA;1f18:1CAPITAL LETTER EPSILON WITH PSILI;:5DASIA;:5PSILI AND VARIA
:5DASIA AND VARIA;:5PSILI AND OXIA;:5DASIA AND OXIA;1f20:1SMALL LETTER ETA WITH PSILI;:5DASIA
:5PSILI AND VARIA;:5DASIA AND VARIA;:5PSILI AND OXIA;:5DASIA AND OXIA;:5PSILI AND PERISPOMENI
:5DASIA AND PERISPOMENI;:1CAPITAL LETTER ETA WITH PSILI;:5DASIA;:5PSILI AND VARIA
:5DASIA AND VARIA;:5PSILI AND OXIA;:5DASIA AND OXIA;:5PSILI AND PERISPOMENI
:5DASIA AND PERISPOMENI;:1SMALL LETTER IOTA WITH PSILI;:5DASIA;:5PSILI AND VARIA
:5DASIA AND VARIA;:5PSILI AND OXIA;:5DASIA AND OXIA;:5PSILI AND PERISPOMENI
:5DASIA AND PERISPOMENI;:1CAPITAL LETTER IOTA WITH PSILI;:5DASIA;:5PSILI AND VARIA
:5DASIA AND VARIA;:5PSILI AND OXIA;:5DASIA AND OXIA;:5PSILI AND PERISPOMENI
:5DASIA AND PERISPOMENI;:1SMALL LETTER OMICRON WITH PSILI;:5DASIA;:5PSILI AND VARIA
:5DASIA AND VARIA;:5PSILI AND OXIA;:5DASIA AND OXIA;1f48:1CAPITAL LETTER OMICRON WITH PSILI
:5DASIA;:5PSILI AND VARIA;:5DASIA AND VARIA;:5PSILI AND OXIA;:5DASIA AND OXIA
1f50:1SMALL LETTER UPSILON WITH PSILI;:5DASIA;:5PSILI AND VARIA;:5DASIA AND VARIA
:5PSILI AND OXIA;:5DASIA AND OXIA;:5PSILI AND PERISPOMENI;:5DASIA AND PERISPOMENI
1f59:1CAPITAL LETTER UPSILON WITH DASIA;1f5b:6AND VARIA;1f5d:7OXIA;1f5f:7PERISPOMENI
:1SMALL LETTER OMEGA WITH PSILI;:5DASIA;:5PSILI AND VARIA;:5DASIA AND VARIA;:5PSILI AND OXIA
:5DASIA AND OXIA;:5PSILI AND PERISPOMENI;:5DASIA AND PERISPOMENI
:1CAPITAL LETTER OMEGA WITH PSILI;:5DASIA;:5PSILI AND VARIA;:5DASIA AND VARIA;:5PSILI AND OXIA
:5DASIA AND OXIA;:5PSILI AND PERISPOMENI;:5DASIA AND PERISPOMENI;:1SMALL LETTER ALPHA WITH VARIA
:5OXIA;:3EPSILON WITH VARIA;:5OXIA;:3ETA WITH VARIA;:5OXIA;:3IOTA WITH VARIA;:5OXIA
:3OMICRON WITH VARIA;:5OXIA;:3UPSILON WITH VARIA;:5OXIA;:3OMEGA WITH VARIA;:5OXIA
1f80:3ALPHA WITH PSILI AND YPOGEGRAMMENI;:5DASIA AND YPOGEGRAMMENI
:5PSILI AND VARIA AND YPOGEGRAMMENI;:5DASIA AND VARIA AND YPOGEGRAMMENI
:5PSILI AND OXIA AND YPOGEGRAMMENI;:5DASIA AND OXIA AND YPOGEGRAMMENI
:5PSILI AND PERISPOMENI AND YPOGEGRAMMENI;:5DASIA AND PERISPOMENI AND YPOGEGRAMMENI
:1CAPITAL LETTER ALPHA WITH PSILI AND PROSGEGRAMMENI;:5DASIA AND PROSGEGRAMMENI
:5PSILI AND VARIA AND PROSGEGRAMMENI;:5DASIA AND VARIA AND PROSGEGRAMMENI
:5PSILI AND OXIA AND PROSGEGRAMMENI;:5DASIA AND OXIA AND PROSGEGRAMMENI
:5PSILI AND PERISPOMENI AND PROSGEGRAMMENI;:5DASIA AND PERISPOMENI AND PROSGEGRAMMENI
:1SMALL LETTER ETA WITH PSILI AND YPOGEGRAMMENI;:5DASIA AND YPOGEGRAMMENI
:5PSILI AND VARIA AND YPOGEGRAMMENI;:5DASIA AND VARIA AND YPOGEGRAMMENI
:5PSILI AND OXIA AND YPOGEGRAMMENI;:5DASIA AND OXIA AND YPOGEGRAMMENI
:5PSILI AND PERISPOMENI AND YPOGEGRAMMENI;:5DASIA AND PERISPOMENI AND YPOGEGRAMMENI
:1CAPITAL LETTER ETA WITH PSILI AND PROSGEGRAMMENI;:5DASIA AND PROSGEGRAMMENI
:5PSILI AND VARIA AND PROSGEGRAMMENI;:5DASIA AND VARIA AND PROSGEGRAMMENI
:5PSILI AND OXIA AND PROSGEGRAMMENI;:5DASIA AND OXIA AND PROSGEGRAMMENI
:5PSILI AND PERISPOMENI AND PROSGEGRAMMENI;:5DASIA AND PERISPOMENI AND PROSGEGRAMMENI
:1SMALL LETTER OMEGA WITH PSILI AND YPOGEGRAMMENI;:5DASIA AND YPOGEGRAMMENI
:5PSILI AND VARIA AND YPOGEGRAMMENI;:5DASIA AND VARIA AND YPOGEGRAMMENI
:5PSILI AND OXIA AND YPOGEGRAMMENI;:5DASIA AND OXIA AND YPOGEGRAMMENI
:5PSILI AND PERISPOMENI AND YPOGEGRAMMENI;:5DASIA AND PERISPOMENI AND YPOGEGRAMMENI
:1CAPITAL LETTER OMEGA WITH PSILI AND PROSGEGRAMMENI;:5DASIA AND PROSGEGRAMMENI
:5PSILI AND VARIA AND PROSGEGRAMMENI;:5DASIA AND VARIA AND PROSGEGRAMMENI
:5PSILI AND OXIA AND PROSGEGRAMMENI;:5DASIA AND OXIA AND PROSGEGRAMMENI
:5PSILI AND PERISPOMENI AND PROSGEGRAMMENI;:5DASIA AND PERISPOMENI AND PROSGEGRAMMENI
:1SMALL LETTER ALPHA WITH VRACHY;:5MACRON;:5VARIA AND YPOGEGRAMMENI;:5YPOGEGRAMMENI
:5OXIA AND YPOGEGRAMMENI;1fb6:5PERISPOMENI;:6AND YPOGEGRAMMENI;:1CAPITAL LETTER ALPHA WITH VRACHY
:5MACRON;:5VARIA;:5OXIA;:5PROSGEGRAMMENI;:1KORONIS;:1PROSGEGRAMMENI;:1PSILI;:1PERISPOMENI
:1DIALYTIKA AND PERISPOMENI;:1SMALL LETTER ETA WITH VARIA AND YPOGEGRAMMENI;:5YPOGEGRAMMENI
:5OXIA AND YPOGEGRAMMENI;1fc6:5PERISPOMENI;:6AND YPOGEGRAMMENI
:1CAPITAL LETTER EPSILON WITH VARIA;:5OXIA;:3ETA WITH VARIA;:5OXIA;:5PROSGEGRAMMENI
:1PSILI AND VARIA;:3OXIA;:3PERISPOMENI;:1SMALL LETTER IOTA WITH VRACHY;:5MACRON
:5DIALYTIKA AND VARIA;:7OXIA;1fd6:5PERISPOMENI;:5DIALYTIKA AND PERISPOMENI
:1CAPITAL LETTER IOTA WITH VRACHY;:5MACRON;:5VARIA;:5OXIA;1fdd:1DASIA AND VARIA;:3OXIA
:3PERISPOMENI;:1SMALL LETTER UPSILON WITH VRACHY;:5MACRON;:5DIALYTIKA AND VARIA;:7OXIA
:3RHO WITH PSILI;:5DASIA;:3UPSILON WITH PERISPOMENI;:5DIALYTIKA AND PERISPOMENI
:1CAPITAL LETTER UPSILON WITH VRACHY;:5MACRON;:5VARIA;:5OXIA;:3RHO WITH DASIA
:1DIALYTIKA AND VARIA;:3OXIA;:1VARIA;1ff2:1SMALL LETTER OMEGA WITH VARIA AND YPOGEGRAMMENI
:5YPOGEGRAMMENI;:5OXIA AND YPOGEGRAMMENI;1ff6:5PERISPOMENI;:6AND YPOGEGRAMMENI
:1CAPITAL LETTER OMICRON WITH VARIA;:5OXIA;:3OMEGA WITH VARIA;:5OXIA;:5PROSGEGRAMMENI;:1OXIA
:1DASIA;2000:0EN QUAD;:0EM QUAD;:0EN SPACE;:0EM SPACE;:0THREE-PER-EM SPACE;:0FOUR-PER-EM SPACE
:0SIX-PER-EM SPACE;:0FIGURE SPACE;:0PUNCTUATION SPACE;:0THIN SPACE;:0HAIR SPACE
:0ZERO WIDTH SPACE;:2NON-JOINER;:2JOINER;:0LEFT-TO-RIGHT MARK;:0RIGHT-TO-LEFT MARK;:0HYPHEN
:0NON-BREAKING HYPHEN;:0FIGURE DASH;:0EN DASH;:0EM DASH;:0HORIZONTAL BAR;:0DOUBLE VERTICAL LINE
:1LOW LINE;:0LEFT SINGLE QUOTATION MARK;:0RIGHT SINGLE QUOTATION MARK
:0SINGLE LOW-9 QUOTATION MARK;:1HIGH-REVERSED-9 QUOTATION MARK;:0LEFT DOUBLE QUOTATION MARK
:0RIGHT DOUBLE QUOTATION MARK;:0DOUBLE LOW-9 QUOTATION MARK;:1HIGH-REVERSED-9 QUOTATION MARK
:0DAGGER;:0DOUBLE DAGGER;:0BULLET;:0TRIANGULAR BULLET;:0ONE DOT LEADER;:0TWO DOT LEADER
:0HORIZONTAL ELLIPSIS;:0HYPHENATION POINT;:0LINE SEPARATOR;:0PARAGRAPH SEPARATOR
:0LEFT-TO-RIGHT EMBEDDING;:0RIGHT-TO-LEFT EMBEDDING;:0POP DIRECTIONAL FORMATTING
:0LEFT-TO-RIGHT OVERRIDE;:0RIGHT-TO-LEFT OVERRIDE;:0NARROW NO-BREAK SPACE;:0PER MILLE SIGN
:1TEN THOUSAND SIGN;:0PRIME;:0DOUBLE PRIME;:0TRIPLE PRIME;:0REVERSED PRIME;:1DOUBLE PRIME
:1TRIPLE PRIME;:0CARET;:0SINGLE LEFT-POINTING ANGLE QUOTATION MARK
:1RIGHT-POINTING ANGLE QUOTATION MARK;:0REFERENCE MARK;:0DOUBLE EXCLAMATION MARK;:0INTERROBANG
:0OVERLINE;:0UNDERTIE;:0CHARACTER TIE;:0CARET INSERTION POINT;:0ASTERISM;:0HYPHEN BULLET
:0FRACTION SLASH;:0LEFT SQUARE BRACKET WITH QUILL;:0RIGHT SQUARE BRACKET WITH QUILL
:0DOUBLE QUESTION MARK;:0QUESTION EXCLAMATION MARK;:0EXCLAMATION QUESTION MARK;:0TIRONIAN SIGN ET
:0REVERSED PILCROW SIGN;:0BLACK LEFTWARDS BULLET;:1RIGHTWARDS BULLET;:0LOW ASTERISK
:0REVERSED SEMICOLON;:0CLOSE UP;:0TWO ASTERISKS ALIGNED VERTICALLY;:0COMMERCIAL MINUS SIGN
:0SWUNG DASH;:0INVERTED UNDERTIE;:0FLOWER PUNCTUATION MARK;:0THREE DOT PUNCTUATION
:0QUADRUPLE PRIME;:0FOUR DOT PUNCTUATION;:0FIVE DOT PUNCTUATION;:0TWO DOT PUNCTUATION
:0FOUR DOT MARK;:0DOTTED CROSS;:0TRICOLON;:0VERTICAL FOUR DOTS;:0MEDIUM MATHEMATICAL SPACE
:0WORD JOINER;:0FUNCTION APPLICATION;:0INVISIBLE TIMES;:1SEPARATOR;:1PLUS
2066:0LEFT-TO-RIGHT ISOLATE;:0RIGHT-TO-LEFT ISOLATE;:0FIRST STRONG ISOLATE
:0POP DIRECTIONAL ISOLATE;:0INHIBIT SYMMETRIC SWAPPING;:0ACTIVATE SYMMETRIC SWAPPING
:0INHIBIT ARABIC FORM SHAPING;:0ACTIVATE ARABIC FORM SHAPING;:0NATIONAL DIGIT SHAPES
:0NOMINAL DIGIT SHAPES;:0SUPERSCRIPT ZERO;:1LATIN SMALL LETTER I;2074:1FOUR;:1FIVE;:1SIX;:1SEVEN
:1EIGHT;:1NINE;:1PLUS SIGN;:1MINUS;:1EQUALS SIGN;:1LEFT PARENTHESIS;:1RIGHT PARENTHESIS
:1LATIN SMALL LETTER N;:0SUBSCRIPT ZERO;:1ONE;:1TWO;:1THREE;:1FOUR;:1FIVE;:1SIX;:1SEVEN;:1EIGHT
:1NINE;:1PLUS SIGN;:1MINUS;:1EQUALS SIGN;:1LEFT PARENTHESIS;:1RIGHT PARENTHESIS
2090:0LATIN SUBSCRIPT SMALL LETTER A;:4E;:4O;:4X;:4SCHWA;:4H;:4K;:4L;:4M;:4N;:4P;:4S;:4T
20a0:0EURO-CURRENCY SIGN;:0COLON SIGN;:0CRUZEIRO SIGN;:0FRENCH FRANC SIGN;:0LIRA SIGN;:0MILL SIGN
:0NAIRA SIGN;:0PESETA SIGN;:0RUPEE SIGN;:0WON SIGN;:0NEW SHEQEL SIGN;:0DONG SIGN;:0EURO SIGN
:0KIP SIGN;:0TUGRIK SIGN;:0DRACHMA SIGN;:0GERMAN PENNY SIGN;:0PESO SIGN;:0GUARANI SIGN
:0AUSTRAL SIGN;:0HRYVNIA SIGN;:0CEDI SIGN;:0LIVRE TOURNOIS SIGN;:0SPESMILO SIGN;:0TENGE SIGN
:0INDIAN RUPEE SIGN;:0TURKISH LIRA SIGN;:0NORDIC MARK SIGN;:0MANAT SIGN;:0RUBLE SIGN;:0LARI SIGN
:0BITCOIN SIGN;:0SOM SIGN;20d0:0COMBINING LEFT HARPOON ABOVE;:1RIGHT HARPOON ABOVE
:1LONG VERTICAL LINE OVERLAY;:1SHORT VERTICAL LINE OVERLAY;:1ANTICLOCKWISE ARROW ABOVE
:1CLOCKWISE ARROW ABOVE;:1LEFT ARROW ABOVE;:1RIGHT ARROW ABOVE;:1RING OVERLAY
:1CLOCKWISE RING OVERLAY;:1ANTICLOCKWISE RING OVERLAY;:1THREE DOTS ABOVE;:1FOUR DOTS ABOVE
:1ENCLOSING CIRCLE;:2SQUARE;:2DIAMOND;:2CIRCLE BACKSLASH;:1LEFT RIGHT ARROW ABOVE
:1ENCLOSING SCREEN;:2KEYCAP;:2UPWARD POINTING TRIANGLE;:1REVERSE SOLIDUS OVERLAY
:1DOUBLE VERTICAL STROKE OVERLAY;:1ANNUITY SYMBOL;:1TRIPLE UNDERDOT;:1WIDE BRIDGE ABOVE
:1LEFTWARDS ARROW OVERLAY;:1LONG DOUBLE SOLIDUS OVERLAY;:1RIGHTWARDS HARPOON WITH BARB DOWNWARDS
:1LEFTWARDS HARPOON WITH BARB DOWNWARDS;:1LEFT ARROW BELOW;:1RIGHT ARROW BELOW;:1ASTERISK ABOVE
2100:0ACCOUNT OF;:0ADDRESSED TO THE SUBJECT;:0DOUBLE-STRUCK CAPITAL C;:0DEGREE CELSIUS
:0CENTRE LINE SYMBOL;:0CARE OF;:0CADA UNA;:0EULER CONSTANT;:0SCRUPLE;:0DEGREE FAHRENHEIT
:0SCRIPT SMALL G;:1CAPITAL H;:0BLACK-LETTER CAPITAL H;:0DOUBLE-STRUCK CAPITAL H;:0PLANCK CONSTANT
:2OVER TWO PI;:0SCRIPT CAPITAL I;:0BLACK-LETTER CAPITAL I;:0SCRIPT CAPITAL L;:1SMALL L
:0L B BAR SYMBOL;:0DOUBLE-STRUCK CAPITAL N;:0NUMERO SIGN;:0SOUND RECORDING COPYRIGHT
:0SCRIPT CAPITAL P;:0DOUBLE-STRUCK CAPITAL P;:2Q;:0SCRIPT CAPITAL R;:0BLACK-LETTER CAPITAL R
:0DOUBLE-STRUCK CAPITAL R;:0PRESCRIPTION TAKE;:0RESPONSE;:0SERVICE MARK;:0TELEPHONE SIGN
:0TRADE MARK SIGN;:0VERSICLE;:0DOUBLE-STRUCK CAPITAL Z;:0OUNCE SIGN;:0OHM SIGN
:0INVERTED OHM SIGN;:0BLACK-LETTER CAPITAL Z;:0TURNED GREEK SMALL LETTER IOTA;:0KELVIN SIGN
:0ANGSTROM SIGN;:0SCRIPT CAPITAL B;:0BLACK-LETTER CAPITAL C;:0ESTIMATED SYMBOL;:0SCRIPT SMALL E
:1CAPITAL E;:2F;:0TURNED CAPITAL F;:0SCRIPT CAPITAL M;:1SMALL O;:0ALEF SYMBOL;:0BET SYMBOL
:0GIMEL SYMBOL;:0DALET SYMBOL;:0INFORMATION SOURCE;:0ROTATED CAPITAL Q;:0FACSIMILE SIGN
:0DOUBLE-STRUCK SMALL PI;:2GAMMA;:1CAPITAL GAMMA;:2PI;:1N-ARY SUMMATION
:0TURNED SANS-SERIF CAPITAL G;:3L;:0REVERSED SANS-SERIF CAPITAL L;:0TURNED SANS-SERIF CAPITAL Y
:0DOUBLE-STRUCK ITALIC CAPITAL D;:2SMALL D;:3E;:3I;:3J;:0PROPERTY LINE;:0TURNED AMPERSAND
:0PER SIGN;:0AKTIESELSKAB;:0TURNED SMALL F;:0SYMBOL FOR SAMARITAN SOURCE
:0VULGAR FRACTION ONE SEVENTH;:3NINTH;:3TENTH;:3THIRD;:2TWO THIRDS;:2ONE FIFTH;:2TWO FIFTHS
:2THREE FIFTHS;:2FOUR FIFTHS;:2ONE SIXTH;:2FIVE SIXTHS;:2ONE EIGHTH;:2THREE EIGHTHS
:2FIVE EIGHTHS;:2SEVEN EIGHTHS;:0FRACTION NUMERATOR ONE;:0ROMAN NUMERAL ONE;:2TWO;:2THREE;:2FOUR
:2FIVE;:2SIX;:2SEVEN;:2EIGHT;:2NINE;:2TEN;:2ELEVEN;:2TWELVE;:2FIFTY;:2ONE HUNDRED;:2FIVE HUNDRED
:2ONE THOUSAND;:0SMALL ROMAN NUMERAL ONE;:3TWO;:3THREE;:3FOUR;:3FIVE;:3SIX;:3SEVEN;:3EIGHT;:3NINE
:3TEN;:3ELEVEN;:3TWELVE;:3FIFTY;:3ONE HUNDRED;:3FIVE HUNDRED;:3ONE THOUSAND
:0ROMAN NUMERAL ONE THOUSAND C D;:2FIVE THOUSAND;:2TEN THOUSAND;:2REVERSED ONE HUNDRED
:0LATIN SMALL LETTER REVERSED C;:0ROMAN NUMERAL SIX LATE FORM;:2FIFTY EARLY FORM;:3THOUSAND
:2ONE HUNDRED THOUSAND;:0VULGAR FRACTION ZERO THIRDS;:0TURNED DIGIT TWO;:2THREE
2190:0LEFTWARDS ARROW;:0UPWARDS ARROW;:0RIGHTWARDS ARROW;:0DOWNWARDS ARROW;:0LEFT RIGHT ARROW
:0UP DOWN ARROW;:0NORTH WEST ARROW;:1EAST ARROW;:0SOUTH EAST ARROW;:1WEST ARROW
:0LEFTWARDS ARROW WITH STROKE;:0RIGHTWARDS ARROW WITH STROKE;:0LEFTWARDS WAVE ARROW
:0RIGHTWARDS WAVE ARROW;:0LEFTWARDS TWO HEADED ARROW;:0UPWARDS TWO HEADED ARROW
:0RIGHTWARDS TWO HEADED ARROW;:0DOWNWARDS TWO HEADED ARROW;:0LEFTWARDS ARROW WITH TAIL
:0RIGHTWARDS ARROW WITH TAIL;:0LEFTWARDS ARROW FROM BAR;:0UPWARDS ARROW FROM BAR
:0RIGHTWARDS ARROW FROM BAR;:0DOWNWARDS ARROW FROM BAR;:0UP DOWN ARROW WITH BASE
:0LEFTWARDS ARROW WITH HOOK;:0RIGHTWARDS ARROW WITH HOOK;:0LEFTWARDS ARROW WITH LOOP
:0RIGHTWARDS ARROW WITH LOOP;:0LEFT RIGHT WAVE ARROW;:2ARROW WITH STROKE;:0DOWNWARDS ZIGZAG ARROW
:0UPWARDS ARROW WITH TIP LEFTWARDS;:4RIGHTWARDS;:0DOWNWARDS ARROW WITH TIP LEFTWARDS;:4RIGHTWARDS
:0RIGHTWARDS ARROW WITH CORNER DOWNWARDS;:0DOWNWARDS ARROW WITH CORNER LEFTWARDS
:0ANTICLOCKWISE TOP SEMICIRCLE ARROW;:0CLOCKWISE TOP SEMICIRCLE ARROW
:0NORTH WEST ARROW TO LONG BAR;:0LEFTWARDS ARROW TO BAR OVER RIGHTWARDS ARROW TO BAR
:0ANTICLOCKWISE OPEN CIRCLE ARROW;:0CLOCKWISE OPEN CIRCLE ARROW
:0LEFTWARDS HARPOON WITH BARB UPWARDS;:4DOWNWARDS;:0UPWARDS HARPOON WITH BARB RIGHTWARDS
:4LEFTWARDS;:0RIGHTWARDS HARPOON WITH BARB UPWARDS;:4DOWNWARDS
:0DOWNWARDS HARPOON WITH BARB RIGHTWARDS;:4LEFTWARDS;:0RIGHTWARDS ARROW OVER LEFTWARDS ARROW
:0UPWARDS ARROW LEFTWARDS OF DOWNWARDS ARROW;:0LEFTWARDS ARROW OVER RIGHTWARDS ARROW
:1PAIRED ARROWS;:0UPWARDS PAIRED ARROWS;:0RIGHTWARDS PAIRED ARROWS;:0DOWNWARDS PAIRED ARROWS
:0LEFTWARDS HARPOON OVER RIGHTWARDS HARPOON;:0RIGHTWARDS HARPOON OVER LEFTWARDS HARPOON
:0LEFTWARDS DOUBLE ARROW WITH STROKE;:0LEFT RIGHT DOUBLE ARROW WITH STROKE
:0RIGHTWARDS DOUBLE ARROW WITH STROKE;:0LEFTWARDS DOUBLE ARROW;:0UPWARDS DOUBLE ARROW
:0RIGHTWARDS DOUBLE ARROW;:0DOWNWARDS DOUBLE ARROW;:0LEFT RIGHT DOUBLE ARROW
:0UP DOWN DOUBLE ARROW;:0NORTH WEST DOUBLE ARROW;:1EAST DOUBLE ARROW;:0SOUTH EAST DOUBLE ARROW
:1WEST DOUBLE ARROW;:0LEFTWARDS TRIPLE ARROW;:0RIGHTWARDS TRIPLE ARROW;:0LEFTWARDS SQUIGGLE ARROW
:0RIGHTWARDS SQUIGGLE ARROW;:0UPWARDS ARROW WITH DOUBLE STROKE
:0DOWNWARDS ARROW WITH DOUBLE STROKE;:0LEFTWARDS DASHED ARROW;:0UPWARDS DASHED ARROW
:0RIGHTWARDS DASHED ARROW;:0DOWNWARDS DASHED ARROW;:0LEFTWARDS ARROW TO BAR
:0RIGHTWARDS ARROW TO BAR;:0LEFTWARDS WHITE ARROW;:0UPWARDS WHITE ARROW;:0RIGHTWARDS WHITE ARROW
:0DOWNWARDS WHITE ARROW;:0UPWARDS WHITE ARROW FROM BAR;:3ON PEDESTAL;:5WITH HORIZONTAL BAR
:6VERTICAL BAR;:2DOUBLE ARROW;:4ON PEDESTAL;:0RIGHTWARDS WHITE ARROW FROM WALL
:0NORTH WEST ARROW TO CORNER;:0SOUTH EAST ARROW TO CORNER;:0UP DOWN WHITE ARROW
:0RIGHT ARROW WITH SMALL CIRCLE;:0DOWNWARDS ARROW LEFTWARDS OF UPWARDS ARROW
:0THREE RIGHTWARDS ARROWS;:0LEFTWARDS ARROW WITH VERTICAL STROKE
:0RIGHTWARDS ARROW WITH VERTICAL STROKE;:0LEFT RIGHT ARROW WITH VERTICAL STROKE
:0LEFTWARDS ARROW WITH DOUBLE VERTICAL STROKE;:0RIGHTWARDS ARROW WITH DOUBLE VERTICAL STROKE
:0LEFT RIGHT ARROW WITH DOUBLE VERTICAL STROKE;:0LEFTWARDS OPEN-HEADED ARROW
:0RIGHTWARDS OPEN-HEADED ARROW;:0LEFT RIGHT OPEN-HEADED ARROW;:0FOR ALL;:0COMPLEMENT
:0PARTIAL DIFFERENTIAL;:0THERE EXISTS;:1DOES NOT EXIST;:0EMPTY SET;:0INCREMENT;:0NABLA
:0ELEMENT OF;:0NOT AN ELEMENT OF;:0SMALL ELEMENT OF;:0CONTAINS AS MEMBER
:0DOES NOT CONTAIN AS MEMBER;:0SMALL CONTAINS AS MEMBER;:0END OF PROOF;:0N-ARY PRODUCT
:1COPRODUCT;:1SUMMATION;:0MINUS SIGN;:0MINUS-OR-PLUS SIGN;:0DOT PLUS;:0DIVISION SLASH;:0SET MINUS
:0ASTERISK OPERATOR;:0RING OPERATOR;:0BULLET OPERATOR;:0SQUARE ROOT;:0CUBE ROOT;:0FOURTH ROOT
:0PROPORTIONAL TO;:0INFINITY;:0RIGHT ANGLE;:0ANGLE;:0MEASURED ANGLE;:0SPHERICAL ANGLE;:0DIVIDES
:0DOES NOT DIVIDE;:0PARALLEL TO;:0NOT PARALLEL TO;:0LOGICAL AND;:1OR;:0INTERSECTION;:0UNION
:0INTEGRAL;:0DOUBLE INTEGRAL;:0TRIPLE INTEGRAL;:0CONTOUR INTEGRAL;:0SURFACE INTEGRAL
:0VOLUME INTEGRAL;:0CLOCKWISE INTEGRAL;:1CONTOUR INTEGRAL;:0ANTICLOCKWISE CONTOUR INTEGRAL
:0THEREFORE;:0BECAUSE;:0RATIO;:0PROPORTION;:0DOT MINUS;:0EXCESS;:0GEOMETRIC PROPORTION
:0HOMOTHETIC;:0TILDE OPERATOR;:0REVERSED TILDE;:0INVERTED LAZY S;:0SINE WAVE;:0WREATH PRODUCT
:0NOT TILDE;:0MINUS TILDE;:0ASYMPTOTICALLY EQUAL TO;:0NOT ASYMPTOTICALLY EQUAL TO
:0APPROXIMATELY EQUAL TO;:1BUT NOT ACTUALLY EQUAL TO
:0NEITHER APPROXIMATELY NOR ACTUALLY EQUAL TO;:0ALMOST EQUAL TO;:0NOT ALMOST EQUAL TO
:0ALMOST EQUAL OR EQUAL TO;:0TRIPLE TILDE;:0ALL EQUAL TO;:0EQUIVALENT TO
:0GEOMETRICALLY EQUIVALENT TO;:0DIFFERENCE BETWEEN;:0APPROACHES THE LIMIT
:0GEOMETRICALLY EQUAL TO;:0APPROXIMATELY EQUAL TO OR THE IMAGE OF
:0IMAGE OF OR APPROXIMATELY EQUAL TO;:0COLON EQUALS;:0EQUALS COLON;:0RING IN EQUAL TO;:1EQUAL TO
:0CORRESPONDS TO;:0ESTIMATES;:0EQUIANGULAR TO;:0STAR EQUALS;:0DELTA EQUAL TO
:0EQUAL TO BY DEFINITION;:0MEASURED BY;:0QUESTIONED EQUAL TO;:0NOT EQUAL TO;:0IDENTICAL TO
:0NOT IDENTICAL TO;:0STRICTLY EQUIVALENT TO;:0LESS-THAN OR EQUAL TO;:0GREATER-THAN OR EQUAL TO
:0LESS-THAN OVER EQUAL TO;:0GREATER-THAN OVER EQUAL TO;:0LESS-THAN BUT NOT EQUAL TO
:0GREATER-THAN BUT NOT EQUAL TO;:0MUCH LESS-THAN;:1GREATER-THAN;:0BETWEEN;:0NOT EQUIVALENT TO
:1LESS-THAN;:1GREATER-THAN;:0NEITHER LESS-THAN NOR EQUAL TO;:1GREATER-THAN NOR EQUAL TO
:0LESS-THAN OR EQUIVALENT TO;:0GREATER-THAN OR EQUIVALENT TO
:0NEITHER LESS-THAN NOR EQUIVALENT TO;:1GREATER-THAN NOR EQUIVALENT TO
:0LESS-THAN OR GREATER-THAN;:0GREATER-THAN OR LESS-THAN;:0NEITHER LESS-THAN NOR GREATER-THAN
:1GREATER-THAN NOR LESS-THAN;:0PRECEDES;:0SUCCEEDS;:0PRECEDES OR EQUAL TO;:0SUCCEEDS OR EQUAL TO
:0PRECEDES OR EQUIVALENT TO;:0SUCCEEDS OR EQUIVALENT TO;:0DOES NOT PRECEDE;:2SUCCEED;:0SUBSET OF
:0SUPERSET OF;:0NOT A SUBSET OF;:2SUPERSET OF;:0SUBSET OF OR EQUAL TO;:0SUPERSET OF OR EQUAL TO
:0NEITHER A SUBSET OF NOR EQUAL TO;:2SUPERSET OF NOR EQUAL TO;:0SUBSET OF WITH NOT EQUAL TO
:0SUPERSET OF WITH NOT EQUAL TO;:0MULTISET;:1MULTIPLICATION;:1UNION;:0SQUARE IMAGE OF
:1ORIGINAL OF;:1IMAGE OF OR EQUAL TO;:1ORIGINAL OF OR EQUAL TO;:1CAP;:1CUP;:0CIRCLED PLUS;:1MINUS
:1TIMES;:1DIVISION SLASH;:1DOT OPERATOR;:1RING OPERATOR;:1ASTERISK OPERATOR;:1EQUALS;:1DASH
:0SQUARED PLUS;:1MINUS;:1TIMES;:1DOT OPERATOR;:0RIGHT TACK;:0LEFT TACK;:0DOWN TACK;:0UP TACK
:0ASSERTION;:0MODELS;:0TRUE;:0FORCES;:0TRIPLE VERTICAL BAR RIGHT TURNSTILE
:0DOUBLE VERTICAL BAR DOUBLE RIGHT TURNSTILE;:0DOES NOT PROVE;:0NOT TRUE;:0DOES NOT FORCE
:0NEGATED DOUBLE VERTICAL BAR DOUBLE RIGHT TURNSTILE;:0PRECEDES UNDER RELATION
:0SUCCEEDS UNDER RELATION;:0NORMAL SUBGROUP OF;:0CONTAINS AS NORMAL SUBGROUP
:0NORMAL SUBGROUP OF OR EQUAL TO;:0CONTAINS AS NORMAL SUBGROUP OR EQUAL TO;:0ORIGINAL OF
:0IMAGE OF;:0MULTIMAP;:0HERMITIAN CONJUGATE MATRIX;:0INTERCALATE;:0XOR;:0NAND;:0NOR
:0RIGHT ANGLE WITH ARC;:1TRIANGLE;:0N-ARY LOGICAL AND;:2OR;:1INTERSECTION;:1UNION
:0DIAMOND OPERATOR;:0DOT OPERATOR;:0STAR OPERATOR;:0DIVISION TIMES;:0BOWTIE
:0LEFT NORMAL FACTOR SEMIDIRECT PRODUCT;:0RIGHT NORMAL FACTOR SEMIDIRECT PRODUCT
:0LEFT SEMIDIRECT PRODUCT;:0RIGHT SEMIDIRECT PRODUCT;:0REVERSED TILDE EQUALS;:0CURLY LOGICAL OR
:2AND;:0DOUBLE SUBSET;:1SUPERSET;:1INTERSECTION;:1UNION;:0PITCHFORK;:0EQUAL AND PARALLEL TO
:0LESS-THAN WITH DOT;:0GREATER-THAN WITH DOT;:0VERY MUCH LESS-THAN;:2GREATER-THAN
:0LESS-THAN EQUAL TO OR GREATER-THAN;:0GREATER-THAN EQUAL TO OR LESS-THAN;:0EQUAL TO OR LESS-THAN
:3GREATER-THAN;:3PRECEDES;:3SUCCEEDS;:0DOES NOT PRECEDE OR EQUAL;:2SUCCEED OR EQUAL
:0NOT SQUARE IMAGE OF OR EQUAL TO;:2ORIGINAL OF OR EQUAL TO;:0SQUARE IMAGE OF OR NOT EQUAL TO
:1ORIGINAL OF OR NOT EQUAL TO;:0LESS-THAN BUT NOT EQUIVALENT TO
:0GREATER-THAN BUT NOT EQUIVALENT TO;:0PRECEDES BUT NOT EQUIVALENT TO
:0SUCCEEDS BUT NOT EQUIVALENT TO;:0NOT NORMAL SUBGROUP OF;:0DOES NOT CONTAIN AS NORMAL SUBGROUP
:0NOT NORMAL SUBGROUP OF OR EQUAL TO;:0DOES NOT CONTAIN AS NORMAL SUBGROUP OR EQUAL
:0VERTICAL ELLIPSIS;:0MIDLINE HORIZONTAL ELLIPSIS;:0UP RIGHT DIAGONAL ELLIPSIS
:0DOWN RIGHT DIAGONAL ELLIPSIS;:0ELEMENT OF WITH LONG HORIZONTAL STROKE
:3VERTICAL BAR AT END OF HORIZONTAL STROKE
:0SMALL ELEMENT OF WITH VERTICAL BAR AT END OF HORIZONTAL STROKE;:0ELEMENT OF WITH DOT ABOVE
:3OVERBAR;:0SMALL ELEMENT OF WITH OVERBAR;:0ELEMENT OF WITH UNDERBAR;:3TWO HORIZONTAL STROKES
:0CONTAINS WITH LONG HORIZONTAL STROKE;:2VERTICAL BAR AT END OF HORIZONTAL STROKE
:0SMALL CONTAINS WITH VERTICAL BAR AT END OF HORIZONTAL STROKE;:0CONTAINS WITH OVERBAR
:0SMALL CONTAINS WITH OVERBAR;:0Z NOTATION BAG MEMBERSHIP;:0DIAMETER SIGN;:0ELECTRIC ARROW
:0HOUSE;:0UP ARROWHEAD;:0DOWN ARROWHEAD;:0PROJECTIVE;:0PERSPECTIVE;:0WAVY LINE;:0LEFT CEILING
:0RIGHT CEILING;:0LEFT FLOOR;:0RIGHT FLOOR;:0BOTTOM RIGHT CROP;:1LEFT CROP;:0TOP RIGHT CROP
:1LEFT CROP;:0REVERSED NOT SIGN;:0SQUARE LOZENGE;:0ARC;:0SEGMENT;:0SECTOR;:0TELEPHONE RECORDER
:0POSITION INDICATOR;:0VIEWDATA SQUARE;:0PLACE OF INTEREST SIGN;:0TURNED NOT SIGN;:0WATCH
:0HOURGLASS;:0TOP LEFT CORNER;:1RIGHT CORNER;:0BOTTOM LEFT CORNER;:1RIGHT CORNER
:0TOP HALF INTEGRAL;:0BOTTOM HALF INTEGRAL;:0FROWN;:0SMILE
:0UP ARROWHEAD BETWEEN TWO HORIZONTAL BARS;:0OPTION KEY;:0ERASE TO THE RIGHT
:0X IN A RECTANGLE BOX;:0KEYBOARD;:0LEFT-POINTING ANGLE BRACKET;:0RIGHT-POINTING ANGLE BRACKET
:0ERASE TO THE LEFT;:0BENZENE RING;:0CYLINDRICITY;:0ALL AROUND-PROFILE;:0SYMMETRY;:0TOTAL RUNOUT
:0DIMENSION ORIGIN;:0CONICAL TAPER;:0SLOPE;:0COUNTERBORE;:0COUNTERSINK
:0APL FUNCTIONAL SYMBOL I-BEAM;:3SQUISH QUAD;:3QUAD EQUAL;:4DIVIDE;:4DIAMOND;:4JOT;:4CIRCLE
:3CIRCLE STILE;:4JOT;:3SLASH BAR;:3BACKSLASH BAR;:3QUAD SLASH;:4BACKSLASH;:4LESS-THAN
:4GREATER-THAN;:3LEFTWARDS VANE;:3RIGHTWARDS VANE;:3QUAD LEFTWARDS ARROW;:4RIGHTWARDS ARROW
:3CIRCLE BACKSLASH;:3DOWN TACK UNDERBAR;:3DELTA STILE;:3QUAD DOWN CARET;:4DELTA;:3DOWN TACK JOT
:3UPWARDS VANE;:3QUAD UPWARDS ARROW;:3UP TACK OVERBAR;:3DEL STILE;:3QUAD UP CARET;:4DEL
:3UP TACK JOT;:3DOWNWARDS VANE;:3QUAD DOWNWARDS ARROW;:3QUOTE UNDERBAR;:3DELTA UNDERBAR
:3DIAMOND UNDERBAR;:3JOT UNDERBAR;:3CIRCLE UNDERBAR;:3UP SHOE JOT;:3QUOTE QUAD;:3CIRCLE STAR
:3QUAD COLON;:3UP TACK DIAERESIS;:3DEL DIAERESIS;:3STAR DIAERESIS;:3JOT DIAERESIS
:3CIRCLE DIAERESIS;:3DOWN SHOE STILE;:3LEFT SHOE STILE;:3TILDE DIAERESIS;:3GREATER-THAN DIAERESIS
:3COMMA BAR;:3DEL TILDE;:3ZILDE;:3STILE TILDE;:3SEMICOLON UNDERBAR;:3QUAD NOT EQUAL;:4QUESTION
:3DOWN CARET TILDE;:3UP CARET TILDE;:3IOTA;:3RHO;:3OMEGA;:3ALPHA UNDERBAR;:3EPSILON UNDERBAR
:3IOTA UNDERBAR;:3OMEGA UNDERBAR;:3ALPHA;:0NOT CHECK MARK
:0RIGHT ANGLE WITH DOWNWARDS ZIGZAG ARROW;:0SHOULDERED OPEN BOX;:0BELL SYMBOL
:0VERTICAL LINE WITH MIDDLE DOT;:0INSERTION SYMBOL;:0CONTINUOUS UNDERLINE SYMBOL
:0DISCONTINUOUS UNDERLINE SYMBOL;:0EMPHASIS SYMBOL;:0COMPOSITION SYMBOL
:0WHITE SQUARE WITH CENTRE VERTICAL LINE;:0ENTER SYMBOL;:0ALTERNATIVE KEY SYMBOL;:0HELM SYMBOL
:0CIRCLED HORIZONTAL BAR WITH NOTCH;:1TRIANGLE DOWN;:0BROKEN CIRCLE WITH NORTHWEST ARROW
:0UNDO SYMBOL;:0MONOSTABLE SYMBOL;:0HYSTERESIS SYMBOL;:0OPEN-CIRCUIT-OUTPUT H-TYPE SYMBOL
:1L-TYPE SYMBOL;:0PASSIVE-PULL-DOWN-OUTPUT SYMBOL;:0PASSIVE-PULL-UP-OUTPUT SYMBOL
:0DIRECT CURRENT SYMBOL FORM TWO;:0SOFTWARE-FUNCTION SYMBOL;:0APL FUNCTIONAL SYMBOL QUAD
:0DECIMAL SEPARATOR KEY SYMBOL;:0PREVIOUS PAGE;:0NEXT PAGE;:0PRINT SCREEN SYMBOL
:0CLEAR SCREEN SYMBOL;:0LEFT PARENTHESIS UPPER HOOK;:2EXTENSION;:2LOWER HOOK
:0RIGHT PARENTHESIS UPPER HOOK;:2EXTENSION;:2LOWER HOOK;:0LEFT SQUARE BRACKET UPPER CORNER
:3EXTENSION;:3LOWER CORNER;:0RIGHT SQUARE BRACKET UPPER CORNER;:3EXTENSION;:3LOWER CORNER
:0LEFT CURLY BRACKET UPPER HOOK;:3MIDDLE PIECE;:3LOWER HOOK;:0CURLY BRACKET EXTENSION
:0RIGHT CURLY BRACKET UPPER HOOK;:3MIDDLE PIECE;:3LOWER HOOK;:0INTEGRAL EXTENSION
:0HORIZONTAL LINE EXTENSION;:0UPPER LEFT OR LOWER RIGHT CURLY BRACKET SECTION
:1RIGHT OR LOWER LEFT CURLY BRACKET SECTION;:0SUMMATION TOP;:1BOTTOM;:0TOP SQUARE BRACKET
:0BOTTOM SQUARE BRACKET;:3OVER TOP SQUARE BRACKET;:0RADICAL SYMBOL BOTTOM
:0LEFT VERTICAL BOX LINE;:0RIGHT VERTICAL BOX LINE;:0HORIZONTAL SCAN LINE-1;:2LINE-3;:2LINE-7
:2LINE-9;:0DENTISTRY SYMBOL LIGHT VERTICAL AND TOP RIGHT;:5BOTTOM RIGHT;:4WITH CIRCLE
:3DOWN AND HORIZONTAL WITH CIRCLE;:3UP AND HORIZONTAL WITH CIRCLE;:3VERTICAL WITH TRIANGLE
:3DOWN AND HORIZONTAL WITH TRIANGLE;:3UP AND HORIZONTAL WITH TRIANGLE;:3VERTICAL AND WAVE
:3DOWN AND HORIZONTAL WITH WAVE;:3UP AND HORIZONTAL WITH WAVE;:3DOWN AND HORIZONTAL
:3UP AND HORIZONTAL;:3VERTICAL AND TOP LEFT;:5BOTTOM LEFT;:0SQUARE FOOT;:0RETURN SYMBOL
:0EJECT SYMBOL;:0VERTICAL LINE EXTENSION;:0METRICAL BREVE;:1LONG OVER SHORT;:1SHORT OVER LONG
:1LONG OVER TWO SHORTS;:1TWO SHORTS OVER LONG;:3JOINED;:1TRISEME;:1TETRASEME;:1PENTASEME
:0EARTH GROUND;:0FUSE;:0TOP PARENTHESIS;:0BOTTOM PARENTHESIS;:0TOP CURLY BRACKET
:0BOTTOM CURLY BRACKET;:0TOP TORTOISE SHELL BRACKET;:0BOTTOM TORTOISE SHELL BRACKET
:0WHITE TRAPEZIUM;:0BENZENE RING WITH CIRCLE;:0STRAIGHTNESS;:0FLATNESS;:0AC CURRENT
:0ELECTRICAL INTERSECTION;:0DECIMAL EXPONENT SYMBOL;:0BLACK RIGHT-POINTING DOUBLE TRIANGLE
:1LEFT-POINTING DOUBLE TRIANGLE;:1UP-POINTING DOUBLE TRIANGLE;:1DOWN-POINTING DOUBLE TRIANGLE
:1RIGHT-POINTING DOUBLE TRIANGLE WITH VERTICAL BAR
:1LEFT-POINTING DOUBLE TRIANGLE WITH VERTICAL BAR
:1RIGHT-POINTING TRIANGLE WITH DOUBLE VERTICAL BAR;:0ALARM CLOCK;:0STOPWATCH;:0TIMER CLOCK
:0HOURGLASS WITH FLOWING SAND;:0BLACK MEDIUM LEFT-POINTING TRIANGLE;:2RIGHT-POINTING TRIANGLE
:2UP-POINTING TRIANGLE;:2DOWN-POINTING TRIANGLE;:0DOUBLE VERTICAL BAR;:0BLACK SQUARE FOR STOP
:1CIRCLE FOR RECORD;:0POWER SYMBOL;:1ON-OFF SYMBOL;:1ON SYMBOL;:1SLEEP SYMBOL
:0OBSERVER EYE SYMBOL;:0SYMBOL FOR NULL;:2START OF HEADING;:4TEXT;:2END OF TEXT;:4TRANSMISSION
:2ENQUIRY;:2ACKNOWLEDGE;:2BELL;:2BACKSPACE;:2HORIZONTAL TABULATION;:2LINE FEED
:2VERTICAL TABULATION;:2FORM FEED;:2CARRIAGE RETURN;:2SHIFT OUT;:3IN;:2DATA LINK ESCAPE
:2DEVICE CONTROL ONE;:4TWO;:4THREE;:4FOUR;:2NEGATIVE ACKNOWLEDGE;:2SYNCHRONOUS IDLE
:2END OF TRANSMISSION BLOCK;:2CANCEL;:2END OF MEDIUM;:2SUBSTITUTE;:2ESCAPE;:2FILE SEPARATOR
:2GROUP SEPARATOR;:2RECORD SEPARATOR;:2UNIT SEPARATOR;:2SPACE;:2DELETE;:0BLANK SYMBOL;:0OPEN BOX
:0SYMBOL FOR NEWLINE;:2DELETE FORM TWO;:2SUBSTITUTE FORM TWO;2440:0OCR HOOK;:1CHAIR;:1FORK
:1INVERTED FORK;:1BELT BUCKLE;:1BOW TIE;:1BRANCH BANK IDENTIFICATION;:1AMOUNT OF CHECK;:1DASH
:1CUSTOMER ACCOUNT NUMBER;:1DOUBLE BACKSLASH;2460:0CIRCLED DIGIT ONE;:2TWO;:2THREE;:2FOUR;:2FIVE
:2SIX;:2SEVEN;:2EIGHT;:2NINE;:1NUMBER TEN;:2ELEVEN;:2TWELVE;:2THIRTEEN;:2FOURTEEN;:2FIFTEEN
:2SIXTEEN;:2SEVENTEEN;:2EIGHTEEN;:2NINETEEN;:2TWENTY;:0PARENTHESIZED DIGIT ONE;:2TWO;:2THREE
:2FOUR;:2FIVE;:2SIX;:2SEVEN;:2EIGHT;:2NINE;:1NUMBER TEN;:2ELEVEN;:2TWELVE;:2THIRTEEN;:2FOURTEEN
:2FIFTEEN;:2SIXTEEN;:2SEVENTEEN;:2EIGHTEEN;:2NINETEEN;:2TWENTY;:0DIGIT ONE FULL STOP
:1TWO FULL STOP;:1THREE FULL STOP;:1FOUR FULL STOP;:1FIVE FULL STOP;:1SIX FULL STOP
:1SEVEN FULL STOP;:1EIGHT FULL STOP;:1NINE FULL STOP;:0NUMBER TEN FULL STOP;:1ELEVEN FULL STOP
:1TWELVE FULL STOP;:1THIRTEEN FULL STOP;:1FOURTEEN FULL STOP;:1FIFTEEN FULL STOP
:1SIXTEEN FULL STOP;:1SEVENTEEN FULL STOP;:1EIGHTEEN FULL STOP;:1NINETEEN FULL STOP
:1TWENTY FULL STOP;:0PARENTHESIZED LATIN SMALL LETTER A;:4B;:4C;:4D;:4E;:4F;:4G;:4H;:4I;:4J;:4K
:4L;:4M;:4N;:4O;:4P;:4Q;:4R;:4S;:4T;:4U;:4V;:4W;:4X;:4Y;:4Z;:0CIRCLED LATIN CAPITAL LETTER A;:4B
:4C;:4D;:4E;:4F;:4G;:4H;:4I;:4J;:4K;:4L;:4M;:4N;:4O;:4P;:4Q;:4R;:4S;:4T;:4U;:4V;:4W;:4X;:4Y;:4Z
:2SMALL LETTER A;:4B;:4C;:4D;:4E;:4F;:4G;:4H;:4I;:4J;:4K;:4L;:4M;:4N;:4O;:4P;:4Q;:4R;:4S;:4T;:4U
:4V;:4W;:4X;:4Y;:4Z;:1DIGIT ZERO;:0NEGATIVE CIRCLED NUMBER ELEVEN;:3TWELVE;:3THIRTEEN;:3FOURTEEN
:3FIFTEEN;:3SIXTEEN;:3SEVENTEEN;:3EIGHTEEN;:3NINETEEN;:3TWENTY;:0DOUBLE CIRCLED DIGIT ONE;:3TWO
:3THREE;:3FOUR;:3FIVE;:3SIX;:3SEVEN;:3EIGHT;:3NINE;:2NUMBER TEN;:0NEGATIVE CIRCLED DIGIT ZERO
:0BOX DRAWINGS LIGHT HORIZONTAL;:2HEAVY HORIZONTAL;:2LIGHT VERTICAL;:2HEAVY VERTICAL
:2LIGHT TRIPLE DASH HORIZONTAL;:2HEAVY TRIPLE DASH HORIZONTAL;:2LIGHT TRIPLE DASH VERTICAL
:2HEAVY TRIPLE DASH VERTICAL;:2LIGHT QUADRUPLE DASH HORIZONTAL;:2HEAVY QUADRUPLE DASH HORIZONTAL
:2LIGHT QUADRUPLE DASH VERTICAL;:2HEAVY QUADRUPLE DASH VERTICAL;:2LIGHT DOWN AND RIGHT
:2DOWN LIGHT AND RIGHT HEAVY;:3HEAVY AND RIGHT LIGHT;:2HEAVY DOWN AND RIGHT;:2LIGHT DOWN AND LEFT
:2DOWN LIGHT AND LEFT HEAVY;:3HEAVY AND LEFT LIGHT;:2HEAVY DOWN AND LEFT;:2LIGHT UP AND RIGHT
:2UP LIGHT AND RIGHT HEAVY;:3HEAVY AND RIGHT LIGHT;:2HEAVY UP AND RIGHT;:2LIGHT UP AND LEFT
:2UP LIGHT AND LEFT HEAVY;:3HEAVY AND LEFT LIGHT;:2HEAVY UP AND LEFT;:2LIGHT VERTICAL AND RIGHT
:2VERTICAL LIGHT AND RIGHT HEAVY;:2UP HEAVY AND RIGHT DOWN LIGHT;:2DOWN HEAVY AND RIGHT UP LIGHT
:2VERTICAL HEAVY AND RIGHT LIGHT;:2DOWN LIGHT AND RIGHT UP HEAVY;:2UP LIGHT AND RIGHT DOWN HEAVY
:2HEAVY VERTICAL AND RIGHT;:2LIGHT VERTICAL AND LEFT;:2VERTICAL LIGHT AND LEFT HEAVY
:2UP HEAVY AND LEFT DOWN LIGHT;:2DOWN HEAVY AND LEFT UP LIGHT;:2VERTICAL HEAVY AND LEFT LIGHT
:2DOWN LIGHT AND LEFT UP HEAVY;:2UP LIGHT AND LEFT DOWN HEAVY;:2HEAVY VERTICAL AND LEFT
:2LIGHT DOWN AND HORIZONTAL;:2LEFT HEAVY AND RIGHT DOWN LIGHT;:2RIGHT HEAVY AND LEFT DOWN LIGHT
:2DOWN LIGHT AND HORIZONTAL HEAVY;:3HEAVY AND HORIZONTAL LIGHT;:2RIGHT LIGHT AND LEFT DOWN HEAVY
:2LEFT LIGHT AND RIGHT DOWN HEAVY;:2HEAVY DOWN AND HORIZONTAL;:2LIGHT UP AND HORIZONTAL
:2LEFT HEAVY AND RIGHT UP LIGHT;:2RIGHT HEAVY AND LEFT UP LIGHT;:2UP LIGHT AND HORIZONTAL HEAVY
:3HEAVY AND HORIZONTAL LIGHT;:2RIGHT LIGHT AND LEFT UP HEAVY;:2LEFT LIGHT AND RIGHT UP HEAVY
:2HEAVY UP AND HORIZONTAL;:2LIGHT VERTICAL AND HORIZONTAL;:2LEFT HEAVY AND RIGHT VERTICAL LIGHT
:2RIGHT HEAVY AND LEFT VERTICAL LIGHT;:2VERTICAL LIGHT AND HORIZONTAL HEAVY
:2UP HEAVY AND DOWN HORIZONTAL LIGHT;:2DOWN HEAVY AND UP HORIZONTAL LIGHT
:2VERTICAL HEAVY AND HORIZONTAL LIGHT;:2LEFT UP HEAVY AND RIGHT DOWN LIGHT
:2RIGHT UP HEAVY AND LEFT DOWN LIGHT;:2LEFT DOWN HEAVY AND RIGHT UP LIGHT
:2RIGHT DOWN HEAVY AND LEFT UP LIGHT;:2DOWN LIGHT AND UP HORIZONTAL HEAVY
:2UP LIGHT AND DOWN HORIZONTAL HEAVY;:2RIGHT LIGHT AND LEFT VERTICAL HEAVY
:2LEFT LIGHT AND RIGHT VERTICAL HEAVY;:2HEAVY VERTICAL AND HORIZONTAL
:2LIGHT DOUBLE DASH HORIZONTAL;:2HEAVY DOUBLE DASH HORIZONTAL;:2LIGHT DOUBLE DASH VERTICAL
:2HEAVY DOUBLE DASH VERTICAL;:2DOUBLE HORIZONTAL;:3VERTICAL;:2DOWN SINGLE AND RIGHT DOUBLE
:3DOUBLE AND RIGHT SINGLE;:2DOUBLE DOWN AND RIGHT;:2DOWN SINGLE AND LEFT DOUBLE
:3DOUBLE AND LEFT SINGLE;:2DOUBLE DOWN AND LEFT;:2UP SINGLE AND RIGHT DOUBLE
:3DOUBLE AND RIGHT SINGLE;:2DOUBLE UP AND RIGHT;:2UP SINGLE AND LEFT DOUBLE
:3DOUBLE AND LEFT SINGLE;:2DOUBLE UP AND LEFT;:2VERTICAL SINGLE AND RIGHT DOUBLE
:3DOUBLE AND RIGHT SINGLE;:2DOUBLE VERTICAL AND RIGHT;:2VERTICAL SINGLE AND LEFT DOUBLE
:3DOUBLE AND LEFT SINGLE;:2DOUBLE VERTICAL AND LEFT;:2DOWN SINGLE AND HORIZONTAL DOUBLE
:3DOUBLE AND HORIZONTAL SINGLE;:2DOUBLE DOWN AND HORIZONTAL;:2UP SINGLE AND HORIZONTAL DOUBLE
:3DOUBLE AND HORIZONTAL SINGLE;:2DOUBLE UP AND HORIZONTAL;:2VERTICAL SINGLE AND HORIZONTAL DOUBLE
:3DOUBLE AND HORIZONTAL SINGLE;:2DOUBLE VERTICAL AND HORIZONTAL;:2LIGHT ARC DOWN AND RIGHT;:6LEFT
:4UP AND LEFT;:6RIGHT;:3DIAGONAL UPPER RIGHT TO LOWER LEFT;:5LEFT TO LOWER RIGHT;:4CROSS;:3LEFT
:3UP;:3RIGHT;:3DOWN;:2HEAVY LEFT;:3UP;:3RIGHT;:3DOWN;:2LIGHT LEFT AND HEAVY RIGHT
:3UP AND HEAVY DOWN;:2HEAVY LEFT AND LIGHT RIGHT;:3UP AND LIGHT DOWN;:0UPPER HALF BLOCK
:0LOWER ONE EIGHTH BLOCK;:2QUARTER BLOCK;:1THREE EIGHTHS BLOCK;:1HALF BLOCK;:1FIVE EIGHTHS BLOCK
:1THREE QUARTERS BLOCK;:1SEVEN EIGHTHS BLOCK;:0FULL BLOCK;:0LEFT SEVEN EIGHTHS BLOCK
:1THREE QUARTERS BLOCK;:1FIVE EIGHTHS BLOCK;:1HALF BLOCK;:1THREE EIGHTHS BLOCK
:1ONE QUARTER BLOCK;:2EIGHTH BLOCK;:0RIGHT HALF BLOCK;:0LIGHT SHADE;:0MEDIUM SHADE;:0DARK SHADE
:0UPPER ONE EIGHTH BLOCK;:0RIGHT ONE EIGHTH BLOCK;:0QUADRANT LOWER LEFT;:2RIGHT;:1UPPER LEFT
:3AND LOWER LEFT AND LOWER RIGHT;:5RIGHT;:4UPPER RIGHT AND LOWER LEFT;:8RIGHT;:2RIGHT
:3AND LOWER LEFT;:6AND LOWER RIGHT;:0BLACK SQUARE;:0WHITE SQUARE;:2WITH ROUNDED CORNERS
:2CONTAINING BLACK SMALL SQUARE;:0SQUARE WITH HORIZONTAL FILL;:2VERTICAL FILL
:2ORTHOGONAL CROSSHATCH FILL;:2UPPER LEFT TO LOWER RIGHT FILL;:3RIGHT TO LOWER LEFT FILL
:2DIAGONAL CROSSHATCH FILL;:0BLACK SMALL SQUARE;:0WHITE SMALL SQUARE;:0BLACK RECTANGLE
:0WHITE RECTANGLE;:0BLACK VERTICAL RECTANGLE;:0WHITE VERTICAL RECTANGLE;:0BLACK PARALLELOGRAM
:0WHITE PARALLELOGRAM;:0BLACK UP-POINTING TRIANGLE;:0WHITE UP-POINTING TRIANGLE
:0BLACK UP-POINTING SMALL TRIANGLE;:0WHITE UP-POINTING SMALL TRIANGLE
:0BLACK RIGHT-POINTING TRIANGLE;:0WHITE RIGHT-POINTING TRIANGLE
:0BLACK RIGHT-POINTING SMALL TRIANGLE;:0WHITE RIGHT-POINTING SMALL TRIANGLE
:0BLACK RIGHT-POINTING POINTER;:0WHITE RIGHT-POINTING POINTER;:0BLACK DOWN-POINTING TRIANGLE
:0WHITE DOWN-POINTING TRIANGLE;:0BLACK DOWN-POINTING SMALL TRIANGLE
:0WHITE DOWN-POINTING SMALL TRIANGLE;:0BLACK LEFT-POINTING TRIANGLE
:0WHITE LEFT-POINTING TRIANGLE;:0BLACK LEFT-POINTING SMALL TRIANGLE
:0WHITE LEFT-POINTING SMALL TRIANGLE;:0BLACK LEFT-POINTING POINTER;:0WHITE LEFT-POINTING POINTER
:0BLACK DIAMOND;:0WHITE DIAMOND;:2CONTAINING BLACK SMALL DIAMOND;:0FISHEYE;:0LOZENGE
:0WHITE CIRCLE;:0DOTTED CIRCLE;:0CIRCLE WITH VERTICAL FILL;:0BULLSEYE;:0BLACK CIRCLE
:0CIRCLE WITH LEFT HALF BLACK;:2RIGHT HALF BLACK;:2LOWER HALF BLACK;:2UPPER HALF BLACK
:3RIGHT QUADRANT BLACK;:2ALL BUT UPPER LEFT QUADRANT BLACK;:0LEFT HALF BLACK CIRCLE
:0RIGHT HALF BLACK CIRCLE;:0INVERSE BULLET;:1WHITE CIRCLE;:0UPPER HALF INVERSE WHITE CIRCLE
:0LOWER HALF INVERSE WHITE CIRCLE;:0UPPER LEFT QUADRANT CIRCULAR ARC
:1RIGHT QUADRANT CIRCULAR ARC;:0LOWER RIGHT QUADRANT CIRCULAR ARC;:1LEFT QUADRANT CIRCULAR ARC
:0UPPER HALF CIRCLE;:0LOWER HALF CIRCLE;:0BLACK LOWER RIGHT TRIANGLE;:2LEFT TRIANGLE
:1UPPER LEFT TRIANGLE;:2RIGHT TRIANGLE;:0WHITE BULLET;:0SQUARE WITH LEFT HALF BLACK
:2RIGHT HALF BLACK;:2UPPER LEFT DIAGONAL HALF BLACK;:2LOWER RIGHT DIAGONAL HALF BLACK
:0WHITE SQUARE WITH VERTICAL BISECTING LINE;:1UP-POINTING TRIANGLE WITH DOT
:0UP-POINTING TRIANGLE WITH LEFT HALF BLACK;:3RIGHT HALF BLACK;:0LARGE CIRCLE
:0WHITE SQUARE WITH UPPER LEFT QUADRANT;:3LOWER LEFT QUADRANT;:4RIGHT QUADRANT
:3UPPER RIGHT QUADRANT;:1CIRCLE WITH UPPER LEFT QUADRANT;:3LOWER LEFT QUADRANT;:4RIGHT QUADRANT
:3UPPER RIGHT QUADRANT;:0UPPER LEFT TRIANGLE;:1RIGHT TRIANGLE;:0LOWER LEFT TRIANGLE
:0WHITE MEDIUM SQUARE;:0BLACK MEDIUM SQUARE;:0WHITE MEDIUM SMALL SQUARE
:0BLACK MEDIUM SMALL SQUARE;:0LOWER RIGHT TRIANGLE;:0BLACK SUN WITH RAYS;:0CLOUD;:0UMBRELLA
:0SNOWMAN;:0COMET;:0BLACK STAR;:0WHITE STAR;:0LIGHTNING;:0THUNDERSTORM;:0SUN;:0ASCENDING NODE
:0DESCENDING NODE;:0CONJUNCTION;:0OPPOSITION;:0BLACK TELEPHONE;:0WHITE TELEPHONE;:0BALLOT BOX
:2WITH CHECK;:3X;:0SALTIRE;:0UMBRELLA WITH RAIN DROPS;:0HOT BEVERAGE;:0WHITE SHOGI PIECE
:0BLACK SHOGI PIECE;:0SHAMROCK;:0REVERSED ROTATED FLORAL HEART BULLET;:0BLACK LEFT POINTING INDEX
:1RIGHT POINTING INDEX;:0WHITE LEFT POINTING INDEX;:1UP POINTING INDEX;:1RIGHT POINTING INDEX
:1DOWN POINTING INDEX;:0SKULL AND CROSSBONES;:0CAUTION SIGN;:0RADIOACTIVE SIGN;:0BIOHAZARD SIGN
:0CADUCEUS;:0ANKH;:0ORTHODOX CROSS;:0CHI RHO;:0CROSS OF LORRAINE;:2JERUSALEM;:0STAR AND CRESCENT
:0FARSI SYMBOL;:0ADI SHAKTI;:0HAMMER AND SICKLE;:0PEACE SYMBOL;:0YIN YANG;:0TRIGRAM FOR HEAVEN
:2LAKE;:2FIRE;:2THUNDER;:2WIND;:2WATER;:2MOUNTAIN;:2EARTH;:0WHEEL OF DHARMA;:0WHITE FROWNING FACE
:1SMILING FACE;:0BLACK SMILING FACE;:0WHITE SUN WITH RAYS;:0FIRST QUARTER MOON
:0LAST QUARTER MOON;:0MERCURY;:0FEMALE SIGN;:0EARTH;:0MALE SIGN;:0JUPITER;:0SATURN;:0URANUS
:0NEPTUNE;:0PLUTO;:0ARIES;:0TAURUS;:0GEMINI;:0CANCER;:0LEO;:0VIRGO;:0LIBRA;:0SCORPIUS
:0SAGITTARIUS;:0CAPRICORN;:0AQUARIUS;:0PISCES;:0WHITE CHESS KING;:2QUEEN;:2ROOK;:2BISHOP;:2KNIGHT
:2PAWN;:0BLACK CHESS KING;:2QUEEN;:2ROOK;:2BISHOP;:2KNIGHT;:2PAWN;:1SPADE SUIT;:0WHITE HEART SUIT
:1DIAMOND SUIT;:0BLACK CLUB SUIT;:0WHITE SPADE SUIT;:0BLACK HEART SUIT;:1DIAMOND SUIT
:0WHITE CLUB SUIT;:0HOT SPRINGS;:0QUARTER NOTE;:0EIGHTH NOTE;:0BEAMED EIGHTH NOTES
:1SIXTEENTH NOTES;:0MUSIC FLAT SIGN;:1NATURAL SIGN;:1SHARP SIGN;:0WEST SYRIAC CROSS
:0EAST SYRIAC CROSS;:0UNIVERSAL RECYCLING SYMBOL;:0RECYCLING SYMBOL FOR TYPE-1 PLASTICS
:3TYPE-2 PLASTICS;:3TYPE-3 PLASTICS;:3TYPE-4 PLASTICS;:3TYPE-5 PLASTICS;:3TYPE-6 PLASTICS
:3TYPE-7 PLASTICS;:3GENERIC MATERIALS;:0BLACK UNIVERSAL RECYCLING SYMBOL;:0RECYCLED PAPER SYMBOL
:0PARTIALLY-RECYCLED PAPER SYMBOL;:0PERMANENT PAPER SIGN;:0WHEELCHAIR SYMBOL;:0DIE FACE-1
:1FACE-2;:1FACE-3;:1FACE-4;:1FACE-5;:1FACE-6;:0WHITE CIRCLE WITH DOT RIGHT;:3TWO DOTS
:0BLACK CIRCLE WITH WHITE DOT RIGHT;:3TWO WHITE DOTS;:0MONOGRAM FOR YANG;:2YIN
:0DIGRAM FOR GREATER YANG;:2LESSER YIN;:3YANG;:2GREATER YIN;:0WHITE FLAG;:0BLACK FLAG
:0HAMMER AND PICK;:0ANCHOR;:0CROSSED SWORDS;:0STAFF OF AESCULAPIUS;:0SCALES;:0ALEMBIC;:0FLOWER
:0GEAR;:0STAFF OF HERMES;:0ATOM SYMBOL;:0FLEUR-DE-LIS;:0OUTLINED WHITE STAR
:0THREE LINES CONVERGING RIGHT;:3LEFT;:0WARNING SIGN;:0HIGH VOLTAGE SIGN;:0DOUBLED FEMALE SIGN
:1MALE SIGN;:0INTERLOCKED FEMALE AND MALE SIGN;:0MALE AND FEMALE SIGN;:1WITH STROKE SIGN
:3AND MALE AND FEMALE SIGN;:0VERTICAL MALE WITH STROKE SIGN;:0HORIZONTAL MALE WITH STROKE SIGN
:0MEDIUM WHITE CIRCLE;:1BLACK CIRCLE;:1SMALL WHITE CIRCLE;:0MARRIAGE SYMBOL;:0DIVORCE SYMBOL
:0UNMARRIED PARTNERSHIP SYMBOL;:0COFFIN;:0FUNERAL URN;:0NEUTER;:0CERES;:0PALLAS;:0JUNO;:0VESTA
:0CHIRON;:0BLACK MOON LILITH;:0SEXTILE;:0SEMISEXTILE;:0QUINCUNX;:0SESQUIQUADRATE;:0SOCCER BALL
:0BASEBALL;:0SQUARED KEY;:0WHITE DRAUGHTS MAN;:2KING;:0BLACK DRAUGHTS MAN;:2KING
:0SNOWMAN WITHOUT SNOW;:0SUN BEHIND CLOUD;:0RAIN;:0BLACK SNOWMAN;:0THUNDER CLOUD AND RAIN
:0TURNED WHITE SHOGI PIECE;:1BLACK SHOGI PIECE;:0WHITE DIAMOND IN SQUARE;:0CROSSING LANES
:0DISABLED CAR;:0OPHIUCHUS;:0PICK;:0CAR SLIDING;:0HELMET WITH WHITE CROSS
:0CIRCLED CROSSING LANES;:0CHAINS;:0NO ENTRY;:0ALTERNATE ONE-WAY LEFT WAY TRAFFIC
:0BLACK TWO-WAY LEFT WAY TRAFFIC;:0WHITE TWO-WAY LEFT WAY TRAFFIC;:0BLACK LEFT LANE MERGE
:0WHITE LEFT LANE MERGE;:0DRIVE SLOW SIGN;:0HEAVY WHITE DOWN-POINTING TRIANGLE
:0LEFT CLOSED ENTRY;:0SQUARED SALTIRE;:0FALLING DIAGONAL IN WHITE CIRCLE IN BLACK SQUARE
:0BLACK TRUCK;:0RESTRICTED LEFT ENTRY-1;:2ENTRY-2;:0ASTRONOMICAL SYMBOL FOR URANUS
:0HEAVY CIRCLE WITH STROKE AND TWO DOTS ABOVE;:0PENTAGRAM;:0RIGHT-HANDED INTERLACED PENTAGRAM
:0LEFT-HANDED INTERLACED PENTAGRAM;:0INVERTED PENTAGRAM;:0BLACK CROSS ON SHIELD;:0SHINTO SHRINE
:0CHURCH;:0CASTLE;:0HISTORIC SITE;:0GEAR WITHOUT HUB;:1WITH HANDLES;:0MAP SYMBOL FOR LIGHTHOUSE
:0MOUNTAIN;:0UMBRELLA ON GROUND;:0FOUNTAIN;:0FLAG IN HOLE;:0FERRY;:0SAILBOAT
:0SQUARE FOUR CORNERS;:0SKIER;:0ICE SKATE;:0PERSON WITH BALL;:0TENT;:0JAPANESE BANK SYMBOL
:0HEADSTONE GRAVEYARD SYMBOL;:0FUEL PUMP;:0CUP ON BLACK SQUARE
:0WHITE FLAG WITH HORIZONTAL MIDDLE BLACK STRIPE;:0BLACK SAFETY SCISSORS;:0UPPER BLADE SCISSORS
:0BLACK SCISSORS;:0LOWER BLADE SCISSORS;:0WHITE SCISSORS;:1HEAVY CHECK MARK
:0TELEPHONE LOCATION SIGN;:0TAPE DRIVE;:0AIRPLANE;:0ENVELOPE;:0RAISED FIST;:1HAND;:0VICTORY HAND
:0WRITING HAND;:0LOWER RIGHT PENCIL;:0PENCIL;:0UPPER RIGHT PENCIL;:0WHITE NIB;:0BLACK NIB
:0CHECK MARK;:0HEAVY CHECK MARK;:0MULTIPLICATION X;:0HEAVY MULTIPLICATION X;:0BALLOT X
:0HEAVY BALLOT X;:0OUTLINED GREEK CROSS;:0HEAVY GREEK CROSS;:0OPEN CENTRE CROSS
:0HEAVY OPEN CENTRE CROSS;:0LATIN CROSS;:0SHADOWED WHITE LATIN CROSS;:0OUTLINED LATIN CROSS
:0MALTESE CROSS;:0STAR OF DAVID;:0FOUR TEARDROP-SPOKED ASTERISK;:1BALLOON-SPOKED ASTERISK
:0HEAVY FOUR BALLOON-SPOKED ASTERISK;:0FOUR CLUB-SPOKED ASTERISK;:0BLACK FOUR POINTED STAR
:0WHITE FOUR POINTED STAR;:0SPARKLES;:0STRESS OUTLINED WHITE STAR;:0CIRCLED WHITE STAR
:0OPEN CENTRE BLACK STAR;:0BLACK CENTRE WHITE STAR;:0OUTLINED BLACK STAR
:0HEAVY OUTLINED BLACK STAR;:0PINWHEEL STAR;:0SHADOWED WHITE STAR;:0HEAVY ASTERISK
:0OPEN CENTRE ASTERISK;:0EIGHT SPOKED ASTERISK;:1POINTED BLACK STAR;:2PINWHEEL STAR
:0SIX POINTED BLACK STAR;:0EIGHT POINTED RECTILINEAR BLACK STAR
:0HEAVY EIGHT POINTED RECTILINEAR BLACK STAR;:0TWELVE POINTED BLACK STAR
:0SIXTEEN POINTED ASTERISK;:0TEARDROP-SPOKED ASTERISK;:0OPEN CENTRE TEARDROP-SPOKED ASTERISK
:0HEAVY TEARDROP-SPOKED ASTERISK;:0SIX PETALLED BLACK AND WHITE FLORETTE;:0BLACK FLORETTE
:0WHITE FLORETTE;:0EIGHT PETALLED OUTLINED BLACK FLORETTE
:0CIRCLED OPEN CENTRE EIGHT POINTED STAR;:0HEAVY TEARDROP-SPOKED PINWHEEL ASTERISK;:0SNOWFLAKE
:0TIGHT TRIFOLIATE SNOWFLAKE;:0HEAVY CHEVRON SNOWFLAKE;:0SPARKLE;:0HEAVY SPARKLE
:0BALLOON-SPOKED ASTERISK;:0EIGHT TEARDROP-SPOKED PROPELLER ASTERISK
:0HEAVY EIGHT TEARDROP-SPOKED PROPELLER ASTERISK;:0CROSS MARK;:0SHADOWED WHITE CIRCLE
:0NEGATIVE SQUARED CROSS MARK;:0LOWER RIGHT DROP-SHADOWED WHITE SQUARE
:0UPPER RIGHT DROP-SHADOWED WHITE SQUARE;:0LOWER RIGHT SHADOWED WHITE SQUARE
:0UPPER RIGHT SHADOWED WHITE SQUARE;:0BLACK QUESTION MARK ORNAMENT;:0WHITE QUESTION MARK ORNAMENT
:1EXCLAMATION MARK ORNAMENT;:0BLACK DIAMOND MINUS WHITE X;:0HEAVY EXCLAMATION MARK SYMBOL
:0LIGHT VERTICAL BAR;:0MEDIUM VERTICAL BAR;:0HEAVY VERTICAL BAR
:1SINGLE TURNED COMMA QUOTATION MARK ORNAMENT;:2COMMA QUOTATION MARK ORNAMENT
:1DOUBLE TURNED COMMA QUOTATION MARK ORNAMENT;:2COMMA QUOTATION MARK ORNAMENT
:1LOW SINGLE COMMA QUOTATION MARK ORNAMENT;:2DOUBLE COMMA QUOTATION MARK ORNAMENT
:0CURVED STEM PARAGRAPH SIGN ORNAMENT;:0HEAVY EXCLAMATION MARK ORNAMENT
:1HEART EXCLAMATION MARK ORNAMENT;:1BLACK HEART;:0ROTATED HEAVY BLACK HEART BULLET;:0FLORAL HEART
:0ROTATED FLORAL HEART BULLET;:0MEDIUM LEFT PARENTHESIS ORNAMENT;:1RIGHT PARENTHESIS ORNAMENT
:1FLATTENED LEFT PARENTHESIS ORNAMENT;:2RIGHT PARENTHESIS ORNAMENT
:1LEFT-POINTING ANGLE BRACKET ORNAMENT;:1RIGHT-POINTING ANGLE BRACKET ORNAMENT
:0HEAVY LEFT-POINTING ANGLE QUOTATION MARK ORNAMENT
:1RIGHT-POINTING ANGLE QUOTATION MARK ORNAMENT;:1LEFT-POINTING ANGLE BRACKET ORNAMENT
:1RIGHT-POINTING ANGLE BRACKET ORNAMENT;:0LIGHT LEFT TORTOISE SHELL BRACKET ORNAMENT
:1RIGHT TORTOISE SHELL BRACKET ORNAMENT;:0MEDIUM LEFT CURLY BRACKET ORNAMENT
:1RIGHT CURLY BRACKET ORNAMENT;:0DINGBAT NEGATIVE CIRCLED DIGIT ONE;:4TWO;:4THREE;:4FOUR;:4FIVE
:4SIX;:4SEVEN;:4EIGHT;:4NINE;:3NUMBER TEN;:1CIRCLED SANS-SERIF DIGIT ONE;:4TWO;:4THREE;:4FOUR
:4FIVE;:4SIX;:4SEVEN;:4EIGHT;:4NINE;:3NUMBER TEN;:1NEGATIVE CIRCLED SANS-SERIF DIGIT ONE;:5TWO
:5THREE;:5FOUR;:5FIVE;:5SIX;:5SEVEN;:5EIGHT;:5NINE;:4NUMBER TEN
:0HEAVY WIDE-HEADED RIGHTWARDS ARROW;:1PLUS SIGN;:1MINUS SIGN;:1DIVISION SIGN;:1SOUTH EAST ARROW
:1RIGHTWARDS ARROW;:1NORTH EAST ARROW;:0DRAFTING POINT RIGHTWARDS ARROW
:0HEAVY ROUND-TIPPED RIGHTWARDS ARROW;:0TRIANGLE-HEADED RIGHTWARDS ARROW
:0HEAVY TRIANGLE-HEADED RIGHTWARDS ARROW;:0DASHED TRIANGLE-HEADED RIGHTWARDS ARROW
:0HEAVY DASHED TRIANGLE-HEADED RIGHTWARDS ARROW;:0BLACK RIGHTWARDS ARROW
:0THREE-D TOP-LIGHTED RIGHTWARDS ARROWHEAD;:1BOTTOM-LIGHTED RIGHTWARDS ARROWHEAD
:0BLACK RIGHTWARDS ARROWHEAD;:0HEAVY BLACK CURVED DOWNWARDS AND RIGHTWARDS ARROW
:3UPWARDS AND RIGHTWARDS ARROW;:0SQUAT BLACK RIGHTWARDS ARROW
:0HEAVY CONCAVE-POINTED BLACK RIGHTWARDS ARROW;:0RIGHT-SHADED WHITE RIGHTWARDS ARROW
:0LEFT-SHADED WHITE RIGHTWARDS ARROW;:0BACK-TILTED SHADOWED WHITE RIGHTWARDS ARROW
:0FRONT-TILTED SHADOWED WHITE RIGHTWARDS ARROW
:0HEAVY LOWER RIGHT-SHADOWED WHITE RIGHTWARDS ARROW;:1UPPER RIGHT-SHADOWED WHITE RIGHTWARDS ARROW
:0NOTCHED LOWER RIGHT-SHADOWED WHITE RIGHTWARDS ARROW;:0CURLY LOOP
:0NOTCHED UPPER RIGHT-SHADOWED WHITE RIGHTWARDS ARROW;:0CIRCLED HEAVY WHITE RIGHTWARDS ARROW
:0WHITE-FEATHERED RIGHTWARDS ARROW;:0BLACK-FEATHERED SOUTH EAST ARROW;:1RIGHTWARDS ARROW
:1NORTH EAST ARROW;:0HEAVY BLACK-FEATHERED SOUTH EAST ARROW;:2RIGHTWARDS ARROW;:2NORTH EAST ARROW
:0TEARDROP-BARBED RIGHTWARDS ARROW;:0HEAVY TEARDROP-SHANKED RIGHTWARDS ARROW
:0WEDGE-TAILED RIGHTWARDS ARROW;:0HEAVY WEDGE-TAILED RIGHTWARDS ARROW
:0OPEN-OUTLINED RIGHTWARDS ARROW;:0DOUBLE CURLY LOOP;:0THREE DIMENSIONAL ANGLE
:0WHITE TRIANGLE CONTAINING SMALL WHITE TRIANGLE;:0PERPENDICULAR;:0OPEN SUBSET;:1SUPERSET
:0LEFT S-SHAPED BAG DELIMITER;:0RIGHT S-SHAPED BAG DELIMITER;:0OR WITH DOT INSIDE
:0REVERSE SOLIDUS PRECEDING SUBSET;:0SUPERSET PRECEDING SOLIDUS
:0VERTICAL BAR WITH HORIZONTAL STROKE;:0MATHEMATICAL RISING DIAGONAL;:0LONG DIVISION
:0MATHEMATICAL FALLING DIAGONAL;:0SQUARED LOGICAL AND;:2OR;:0WHITE DIAMOND WITH CENTRED DOT
:0AND WITH DOT;:0ELEMENT OF OPENING UPWARDS;:0LOWER RIGHT CORNER WITH DOT
:0UPPER LEFT CORNER WITH DOT;:0LEFT OUTER JOIN;:0RIGHT OUTER JOIN;:0FULL OUTER JOIN
:0LARGE UP TACK;:1DOWN TACK;:0LEFT AND RIGHT DOUBLE TURNSTILE;:3TACK;:1MULTIMAP;:0LONG RIGHT TACK
:1LEFT TACK;:0UP TACK WITH CIRCLE ABOVE;:0LOZENGE DIVIDED BY HORIZONTAL RULE
:0WHITE CONCAVE-SIDED DIAMOND;:3WITH LEFTWARDS TICK;:4RIGHTWARDS TICK
:1SQUARE WITH LEFTWARDS TICK;:3RIGHTWARDS TICK;:0MATHEMATICAL LEFT WHITE SQUARE BRACKET
:1RIGHT WHITE SQUARE BRACKET;:1LEFT ANGLE BRACKET;:1RIGHT ANGLE BRACKET
:1LEFT DOUBLE ANGLE BRACKET;:1RIGHT DOUBLE ANGLE BRACKET;:1LEFT WHITE TORTOISE SHELL BRACKET
:1RIGHT WHITE TORTOISE SHELL BRACKET;:1LEFT FLATTENED PARENTHESIS;:1RIGHT FLATTENED PARENTHESIS
:0UPWARDS QUADRUPLE ARROW;:0DOWNWARDS QUADRUPLE ARROW;:0ANTICLOCKWISE GAPPED CIRCLE ARROW
:0CLOCKWISE GAPPED CIRCLE ARROW;:0RIGHT ARROW WITH CIRCLED PLUS;:0LONG LEFTWARDS ARROW
:1RIGHTWARDS ARROW;:1LEFT RIGHT ARROW;:1LEFTWARDS DOUBLE ARROW;:1RIGHTWARDS DOUBLE ARROW
:1LEFT RIGHT DOUBLE ARROW;:1LEFTWARDS ARROW FROM BAR;:1RIGHTWARDS ARROW FROM BAR
:1LEFTWARDS DOUBLE ARROW FROM BAR;:1RIGHTWARDS DOUBLE ARROW FROM BAR;:2SQUIGGLE ARROW
2900:0RIGHTWARDS TWO-HEADED ARROW WITH VERTICAL STROKE;:4DOUBLE VERTICAL STROKE
:0LEFTWARDS DOUBLE ARROW WITH VERTICAL STROKE;:0RIGHTWARDS DOUBLE ARROW WITH VERTICAL STROKE
:0LEFT RIGHT DOUBLE ARROW WITH VERTICAL STROKE;:0RIGHTWARDS TWO-HEADED ARROW FROM BAR
:0LEFTWARDS DOUBLE ARROW FROM BAR;:0RIGHTWARDS DOUBLE ARROW FROM BAR
:0DOWNWARDS ARROW WITH HORIZONTAL STROKE;:0UPWARDS ARROW WITH HORIZONTAL STROKE;:1TRIPLE ARROW
:0DOWNWARDS TRIPLE ARROW;:0LEFTWARDS DOUBLE DASH ARROW;:0RIGHTWARDS DOUBLE DASH ARROW
:0LEFTWARDS TRIPLE DASH ARROW;:0RIGHTWARDS TRIPLE DASH ARROW;:1TWO-HEADED TRIPLE DASH ARROW
:1ARROW WITH DOTTED STEM;:0UPWARDS ARROW TO BAR;:0DOWNWARDS ARROW TO BAR
:0RIGHTWARDS ARROW WITH TAIL WITH VERTICAL STROKE;:5DOUBLE VERTICAL STROKE
:1TWO-HEADED ARROW WITH TAIL;:5WITH VERTICAL STROKE;:6DOUBLE VERTICAL STROKE
:0LEFTWARDS ARROW-TAIL;:0RIGHTWARDS ARROW-TAIL;:0LEFTWARDS DOUBLE ARROW-TAIL
:0RIGHTWARDS DOUBLE ARROW-TAIL;:0LEFTWARDS ARROW TO BLACK DIAMOND
:0RIGHTWARDS ARROW TO BLACK DIAMOND;:0LEFTWARDS ARROW FROM BAR TO BLACK DIAMOND
:0RIGHTWARDS ARROW FROM BAR TO BLACK DIAMOND;:0NORTH WEST AND SOUTH EAST ARROW
:1EAST AND SOUTH WEST ARROW;:1WEST ARROW WITH HOOK;:1EAST ARROW WITH HOOK
:0SOUTH EAST ARROW WITH HOOK;:1WEST ARROW WITH HOOK;:0NORTH WEST ARROW AND NORTH EAST ARROW
:1EAST ARROW AND SOUTH EAST ARROW;:0SOUTH EAST ARROW AND SOUTH WEST ARROW
:1WEST ARROW AND NORTH WEST ARROW;:0RISING DIAGONAL CROSSING FALLING DIAGONAL
:0FALLING DIAGONAL CROSSING RISING DIAGONAL;:0SOUTH EAST ARROW CROSSING NORTH EAST ARROW
:0NORTH EAST ARROW CROSSING SOUTH EAST ARROW;:0FALLING DIAGONAL CROSSING NORTH EAST ARROW
:0RISING DIAGONAL CROSSING SOUTH EAST ARROW;:0NORTH EAST ARROW CROSSING NORTH WEST ARROW
:1WEST ARROW CROSSING NORTH EAST ARROW;:0WAVE ARROW POINTING DIRECTLY RIGHT
:0ARROW POINTING RIGHTWARDS THEN CURVING UPWARDS;:5DOWNWARDS;:2DOWNWARDS THEN CURVING LEFTWARDS
:5RIGHTWARDS;:0RIGHT-SIDE ARC CLOCKWISE ARROW;:0LEFT-SIDE ARC ANTICLOCKWISE ARROW
:0TOP ARC ANTICLOCKWISE ARROW;:0BOTTOM ARC ANTICLOCKWISE ARROW
:0TOP ARC CLOCKWISE ARROW WITH MINUS;:2ANTICLOCKWISE ARROW WITH PLUS
:0LOWER RIGHT SEMICIRCULAR CLOCKWISE ARROW;:1LEFT SEMICIRCULAR ANTICLOCKWISE ARROW
:0ANTICLOCKWISE CLOSED CIRCLE ARROW;:0CLOCKWISE CLOSED CIRCLE ARROW
:0RIGHTWARDS ARROW ABOVE SHORT LEFTWARDS ARROW;:0LEFTWARDS ARROW ABOVE SHORT RIGHTWARDS ARROW
:0SHORT RIGHTWARDS ARROW ABOVE LEFTWARDS ARROW;:0RIGHTWARDS ARROW WITH PLUS BELOW
:0LEFTWARDS ARROW WITH PLUS BELOW;:0RIGHTWARDS ARROW THROUGH X
:0LEFT RIGHT ARROW THROUGH SMALL CIRCLE;:0UPWARDS TWO-HEADED ARROW FROM SMALL CIRCLE
:0LEFT BARB UP RIGHT BARB DOWN HARPOON;:2DOWN RIGHT BARB UP HARPOON
:0UP BARB RIGHT DOWN BARB LEFT HARPOON;:2LEFT DOWN BARB RIGHT HARPOON
:0LEFT BARB UP RIGHT BARB UP HARPOON;:0UP BARB RIGHT DOWN BARB RIGHT HARPOON
:0LEFT BARB DOWN RIGHT BARB DOWN HARPOON;:0UP BARB LEFT DOWN BARB LEFT HARPOON
:0LEFTWARDS HARPOON WITH BARB UP TO BAR;:0RIGHTWARDS HARPOON WITH BARB UP TO BAR
:0UPWARDS HARPOON WITH BARB RIGHT TO BAR;:0DOWNWARDS HARPOON WITH BARB RIGHT TO BAR
:0LEFTWARDS HARPOON WITH BARB DOWN TO BAR;:0RIGHTWARDS HARPOON WITH BARB DOWN TO BAR
:0UPWARDS HARPOON WITH BARB LEFT TO BAR;:0DOWNWARDS HARPOON WITH BARB LEFT TO BAR
:0LEFTWARDS HARPOON WITH BARB UP FROM BAR;:0RIGHTWARDS HARPOON WITH BARB UP FROM BAR
:0UPWARDS HARPOON WITH BARB RIGHT FROM BAR;:0DOWNWARDS HARPOON WITH BARB RIGHT FROM BAR
:0LEFTWARDS HARPOON WITH BARB DOWN FROM BAR;:0RIGHTWARDS HARPOON WITH BARB DOWN FROM BAR
:0UPWARDS HARPOON WITH BARB LEFT FROM BAR;:0DOWNWARDS HARPOON WITH BARB LEFT FROM BAR
:0LEFTWARDS HARPOON WITH BARB UP ABOVE LEFTWARDS HARPOON WITH BARB DOWN
:0UPWARDS HARPOON WITH BARB LEFT BESIDE UPWARDS HARPOON WITH BARB RIGHT
:0RIGHTWARDS HARPOON WITH BARB UP ABOVE RIGHTWARDS HARPOON WITH BARB DOWN
:0DOWNWARDS HARPOON WITH BARB LEFT BESIDE DOWNWARDS HARPOON WITH BARB RIGHT
:0LEFTWARDS HARPOON WITH BARB UP ABOVE RIGHTWARDS HARPOON WITH BARB UP
:4DOWN ABOVE RIGHTWARDS HARPOON WITH BARB DOWN
:0RIGHTWARDS HARPOON WITH BARB UP ABOVE LEFTWARDS HARPOON WITH BARB UP
:4DOWN ABOVE LEFTWARDS HARPOON WITH BARB DOWN;:0LEFTWARDS HARPOON WITH BARB UP ABOVE LONG DASH
:4DOWN BELOW LONG DASH;:0RIGHTWARDS HARPOON WITH BARB UP ABOVE LONG DASH;:4DOWN BELOW LONG DASH
:0UPWARDS HARPOON WITH BARB LEFT BESIDE DOWNWARDS HARPOON WITH BARB RIGHT
:0DOWNWARDS HARPOON WITH BARB LEFT BESIDE UPWARDS HARPOON WITH BARB RIGHT
:0RIGHT DOUBLE ARROW WITH ROUNDED HEAD;:0EQUALS SIGN ABOVE RIGHTWARDS ARROW
:0TILDE OPERATOR ABOVE RIGHTWARDS ARROW;:0LEFTWARDS ARROW ABOVE TILDE OPERATOR
:0RIGHTWARDS ARROW ABOVE TILDE OPERATOR;:3ALMOST EQUAL TO;:0LESS-THAN ABOVE LEFTWARDS ARROW
:0LEFTWARDS ARROW THROUGH LESS-THAN;:0GREATER-THAN ABOVE RIGHTWARDS ARROW
:0SUBSET ABOVE RIGHTWARDS ARROW;:0LEFTWARDS ARROW THROUGH SUBSET;:0SUPERSET ABOVE LEFTWARDS ARROW
:0LEFT FISH TAIL;:0RIGHT FISH TAIL;:0UP FISH TAIL;:0DOWN FISH TAIL;29eb:0BLACK LOZENGE
2a00:0N-ARY CIRCLED DOT OPERATOR;:2PLUS OPERATOR;:2TIMES OPERATOR;:1UNION OPERATOR WITH DOT
:4PLUS;:1SQUARE INTERSECTION OPERATOR;:2UNION OPERATOR;:0TWO LOGICAL AND OPERATOR;:2OR OPERATOR
:0N-ARY TIMES OPERATOR;:0MODULO TWO SUM;:0SUMMATION WITH INTEGRAL;:0QUADRUPLE INTEGRAL OPERATOR
:0FINITE PART INTEGRAL;:0INTEGRAL WITH DOUBLE STROKE;:1AVERAGE WITH SLASH;:0CIRCULATION FUNCTION
:0ANTICLOCKWISE INTEGRATION;:0LINE INTEGRATION WITH RECTANGULAR PATH AROUND POLE
:3SEMICIRCULAR PATH AROUND POLE;:2NOT INCLUDING THE POLE;:0INTEGRAL AROUND A POINT OPERATOR
:0QUATERNION INTEGRAL OPERATOR;:0INTEGRAL WITH LEFTWARDS ARROW WITH HOOK;:2TIMES SIGN
:2INTERSECTION;:2UNION;:2OVERBAR;:2UNDERBAR;:0JOIN;:0LARGE LEFT TRIANGLE OPERATOR
:0Z NOTATION SCHEMA COMPOSITION;:3PIPING;:3PROJECTION;:0PLUS SIGN WITH SMALL CIRCLE ABOVE
:3CIRCUMFLEX ACCENT ABOVE;:3TILDE ABOVE;:3DOT BELOW;:3TILDE BELOW;:3SUBSCRIPT TWO
:3BLACK TRIANGLE;:0MINUS SIGN WITH COMMA ABOVE;:3DOT BELOW;:3FALLING DOTS;:3RISING DOTS
:0PLUS SIGN IN LEFT HALF CIRCLE;:3RIGHT HALF CIRCLE;:0VECTOR OR CROSS PRODUCT
:0MULTIPLICATION SIGN WITH DOT ABOVE;:3UNDERBAR;:0SEMIDIRECT PRODUCT WITH BOTTOM CLOSED
:0SMASH PRODUCT;:0MULTIPLICATION SIGN IN LEFT HALF CIRCLE;:3RIGHT HALF CIRCLE
:0CIRCLED MULTIPLICATION SIGN WITH CIRCUMFLEX ACCENT;:0MULTIPLICATION SIGN IN DOUBLE CIRCLE
:0CIRCLED DIVISION SIGN;:0PLUS SIGN IN TRIANGLE;:0MINUS SIGN IN TRIANGLE
:0MULTIPLICATION SIGN IN TRIANGLE;:0INTERIOR PRODUCT;:0RIGHTHAND INTERIOR PRODUCT
:0Z NOTATION RELATIONAL COMPOSITION;:0AMALGAMATION OR COPRODUCT;:0INTERSECTION WITH DOT
:0UNION WITH MINUS SIGN;:2OVERBAR;:0INTERSECTION WITH OVERBAR;:2LOGICAL AND
:0UNION WITH LOGICAL OR;:1ABOVE INTERSECTION;:0INTERSECTION ABOVE UNION
:0UNION ABOVE BAR ABOVE INTERSECTION;:0INTERSECTION ABOVE BAR ABOVE UNION
:0UNION BESIDE AND JOINED WITH UNION;:0INTERSECTION BESIDE AND JOINED WITH INTERSECTION
:0CLOSED UNION WITH SERIFS;:1INTERSECTION WITH SERIFS;:0DOUBLE SQUARE INTERSECTION;:2UNION
:0CLOSED UNION WITH SERIFS AND SMASH PRODUCT;:0LOGICAL AND WITH DOT ABOVE;:1OR WITH DOT ABOVE
:0DOUBLE LOGICAL AND;:2OR;:0TWO INTERSECTING LOGICAL AND;:3OR;:0SLOPING LARGE OR;:2AND
:0LOGICAL OR OVERLAPPING LOGICAL AND;:1AND WITH MIDDLE STEM;:1OR WITH MIDDLE STEM
:1AND WITH HORIZONTAL DASH;:1OR WITH HORIZONTAL DASH;:1AND WITH DOUBLE OVERBAR;:3UNDERBAR
:3DOUBLE UNDERBAR;:0SMALL VEE WITH UNDERBAR;:0LOGICAL OR WITH DOUBLE OVERBAR;:4UNDERBAR
:0Z NOTATION DOMAIN ANTIRESTRICTION;:2RANGE ANTIRESTRICTION;:0EQUALS SIGN WITH DOT BELOW
:0IDENTICAL WITH DOT ABOVE;:0TRIPLE HORIZONTAL BAR WITH DOUBLE VERTICAL STROKE
:4TRIPLE VERTICAL STROKE;:0TILDE OPERATOR WITH DOT ABOVE;:3RISING DOTS;:0SIMILAR MINUS SIMILAR
:0CONGRUENT WITH DOT ABOVE;:0EQUALS WITH ASTERISK;:0ALMOST EQUAL TO WITH CIRCUMFLEX ACCENT
:0APPROXIMATELY EQUAL OR EQUAL TO;:0EQUALS SIGN ABOVE PLUS SIGN;:0PLUS SIGN ABOVE EQUALS SIGN
:0EQUALS SIGN ABOVE TILDE OPERATOR;:0DOUBLE COLON EQUAL;:0TWO CONSECUTIVE EQUALS SIGNS
:0THREE CONSECUTIVE EQUALS SIGNS;:0EQUALS SIGN WITH TWO DOTS ABOVE AND TWO DOTS BELOW
:0EQUIVALENT WITH FOUR DOTS ABOVE;:0LESS-THAN WITH CIRCLE INSIDE
:0GREATER-THAN WITH CIRCLE INSIDE;:0LESS-THAN WITH QUESTION MARK ABOVE
:0GREATER-THAN WITH QUESTION MARK ABOVE;:0LESS-THAN OR SLANTED EQUAL TO
:0GREATER-THAN OR SLANTED EQUAL TO;:0LESS-THAN OR SLANTED EQUAL TO WITH DOT INSIDE
:0GREATER-THAN OR SLANTED EQUAL TO WITH DOT INSIDE;:0LESS-THAN OR SLANTED EQUAL TO WITH DOT ABOVE
:0GREATER-THAN OR SLANTED EQUAL TO WITH DOT ABOVE
:0LESS-THAN OR SLANTED EQUAL TO WITH DOT ABOVE RIGHT
:0GREATER-THAN OR SLANTED EQUAL TO WITH DOT ABOVE LEFT;:0LESS-THAN OR APPROXIMATE
:0GREATER-THAN OR APPROXIMATE;:0LESS-THAN AND SINGLE-LINE NOT EQUAL TO
:0GREATER-THAN AND SINGLE-LINE NOT EQUAL TO;:0LESS-THAN AND NOT APPROXIMATE
:0GREATER-THAN AND NOT APPROXIMATE;:0LESS-THAN ABOVE DOUBLE-LINE EQUAL ABOVE GREATER-THAN
:0GREATER-THAN ABOVE DOUBLE-LINE EQUAL ABOVE LESS-THAN;:0LESS-THAN ABOVE SIMILAR OR EQUAL
:0GREATER-THAN ABOVE SIMILAR OR EQUAL;:0LESS-THAN ABOVE SIMILAR ABOVE GREATER-THAN
:0GREATER-THAN ABOVE SIMILAR ABOVE LESS-THAN
:0LESS-THAN ABOVE GREATER-THAN ABOVE DOUBLE-LINE EQUAL
:0GREATER-THAN ABOVE LESS-THAN ABOVE DOUBLE-LINE EQUAL
:0LESS-THAN ABOVE SLANTED EQUAL ABOVE GREATER-THAN ABOVE SLANTED EQUAL
:0GREATER-THAN ABOVE SLANTED EQUAL ABOVE LESS-THAN ABOVE SLANTED EQUAL
:0SLANTED EQUAL TO OR LESS-THAN;:4GREATER-THAN;:4LESS-THAN WITH DOT INSIDE
:4GREATER-THAN WITH DOT INSIDE;:0DOUBLE-LINE EQUAL TO OR LESS-THAN;:4GREATER-THAN
:1SLANTED EQUAL TO OR LESS-THAN;:5GREATER-THAN;:0SIMILAR OR LESS-THAN;:2GREATER-THAN
:1ABOVE LESS-THAN ABOVE EQUALS SIGN;:2GREATER-THAN ABOVE EQUALS SIGN;:0DOUBLE NESTED LESS-THAN
:2GREATER-THAN;:2LESS-THAN WITH UNDERBAR;:0GREATER-THAN OVERLAPPING LESS-THAN;:1BESIDE LESS-THAN
:0LESS-THAN CLOSED BY CURVE;:0GREATER-THAN CLOSED BY CURVE
:0LESS-THAN CLOSED BY CURVE ABOVE SLANTED EQUAL
:0GREATER-THAN CLOSED BY CURVE ABOVE SLANTED EQUAL;:0SMALLER THAN;:0LARGER THAN
:0SMALLER THAN OR EQUAL TO;:0LARGER THAN OR EQUAL TO;:0EQUALS SIGN WITH BUMPY ABOVE
:0PRECEDES ABOVE SINGLE-LINE EQUALS SIGN;:0SUCCEEDS ABOVE SINGLE-LINE EQUALS SIGN
:0PRECEDES ABOVE SINGLE-LINE NOT EQUAL TO;:0SUCCEEDS ABOVE SINGLE-LINE NOT EQUAL TO
:0PRECEDES ABOVE EQUALS SIGN;:0SUCCEEDS ABOVE EQUALS SIGN;:0PRECEDES ABOVE NOT EQUAL TO
:0SUCCEEDS ABOVE NOT EQUAL TO;:0PRECEDES ABOVE ALMOST EQUAL TO;:0SUCCEEDS ABOVE ALMOST EQUAL TO
:0PRECEDES ABOVE NOT ALMOST EQUAL TO;:0SUCCEEDS ABOVE NOT ALMOST EQUAL TO;:0DOUBLE PRECEDES
:1SUCCEEDS;:0SUBSET WITH DOT;:0SUPERSET WITH DOT;:0SUBSET WITH PLUS SIGN BELOW
:0SUPERSET WITH PLUS SIGN BELOW;:0SUBSET WITH MULTIPLICATION SIGN BELOW
:0SUPERSET WITH MULTIPLICATION SIGN BELOW;:0SUBSET OF OR EQUAL TO WITH DOT ABOVE
:0SUPERSET OF OR EQUAL TO WITH DOT ABOVE;:0SUBSET OF ABOVE EQUALS SIGN
:0SUPERSET OF ABOVE EQUALS SIGN;:0SUBSET OF ABOVE TILDE OPERATOR
:0SUPERSET OF ABOVE TILDE OPERATOR;:0SUBSET OF ABOVE ALMOST EQUAL TO
:0SUPERSET OF ABOVE ALMOST EQUAL TO;:0SUBSET OF ABOVE NOT EQUAL TO
:0SUPERSET OF ABOVE NOT EQUAL TO;:0SQUARE LEFT OPEN BOX OPERATOR;:1RIGHT OPEN BOX OPERATOR
:0CLOSED SUBSET;:1SUPERSET;:1SUBSET OR EQUAL TO;:1SUPERSET OR EQUAL TO;:0SUBSET ABOVE SUPERSET
:0SUPERSET ABOVE SUBSET;:0SUBSET ABOVE SUBSET;:0SUPERSET ABOVE SUPERSET;:1BESIDE SUBSET
:2AND JOINED BY DASH WITH SUBSET;:0ELEMENT OF OPENING DOWNWARDS;:0PITCHFORK WITH TEE TOP
:0TRANSVERSAL INTERSECTION;:0FORKING;:0NONFORKING;:0SHORT LEFT TACK;:1DOWN TACK;:1UP TACK
:0PERPENDICULAR WITH S;:0VERTICAL BAR TRIPLE RIGHT TURNSTILE;:0DOUBLE VERTICAL BAR LEFT TURNSTILE
:0VERTICAL BAR DOUBLE LEFT TURNSTILE;:0DOUBLE VERTICAL BAR DOUBLE LEFT TURNSTILE
:0LONG DASH FROM LEFT MEMBER OF DOUBLE VERTICAL;:0SHORT DOWN TACK WITH OVERBAR
:1UP TACK WITH UNDERBAR;:3ABOVE SHORT DOWN TACK;:0DOUBLE DOWN TACK;:1UP TACK;:1STROKE NOT SIGN
:0REVERSED DOUBLE STROKE NOT SIGN;:0DOES NOT DIVIDE WITH REVERSED NEGATION SLASH
:0VERTICAL LINE WITH CIRCLE ABOVE;:4BELOW;:0DOWN TACK WITH CIRCLE BELOW
:0PARALLEL WITH HORIZONTAL STROKE;:2TILDE OPERATOR;:0TRIPLE VERTICAL BAR BINARY RELATION
:3WITH HORIZONTAL STROKE;:1COLON OPERATOR;:1NESTED LESS-THAN;:2GREATER-THAN
:0DOUBLE-LINE SLANTED LESS-THAN OR EQUAL TO;:2GREATER-THAN OR EQUAL TO
:0TRIPLE SOLIDUS BINARY RELATION;:0LARGE TRIPLE VERTICAL BAR OPERATOR;:0DOUBLE SOLIDUS OPERATOR
:0WHITE VERTICAL BAR;:0N-ARY WHITE VERTICAL BAR;:0NORTH EAST WHITE ARROW;:1WEST WHITE ARROW
:0SOUTH EAST WHITE ARROW;:1WEST WHITE ARROW;:0LEFT RIGHT WHITE ARROW;:0LEFTWARDS BLACK ARROW
:0UPWARDS BLACK ARROW;:0DOWNWARDS BLACK ARROW;:0NORTH EAST BLACK ARROW;:1WEST BLACK ARROW
:0SOUTH EAST BLACK ARROW;:1WEST BLACK ARROW;:0LEFT RIGHT BLACK ARROW;:0UP DOWN BLACK ARROW
:0RIGHTWARDS ARROW WITH TIP DOWNWARDS;:4UPWARDS;:0LEFTWARDS ARROW WITH TIP DOWNWARDS;:4UPWARDS
:0SQUARE WITH TOP HALF BLACK;:2BOTTOM HALF BLACK;:2UPPER RIGHT DIAGONAL HALF BLACK
:2LOWER LEFT DIAGONAL HALF BLACK;:0DIAMOND WITH LEFT HALF BLACK;:2RIGHT HALF BLACK
:2TOP HALF BLACK;:2BOTTOM HALF BLACK;:0DOTTED SQUARE;:0BLACK LARGE SQUARE;:0WHITE LARGE SQUARE
:0BLACK VERY SMALL SQUARE;:0WHITE VERY SMALL SQUARE;:0BLACK PENTAGON;:0WHITE PENTAGON;:1HEXAGON
:0BLACK HEXAGON;:0HORIZONTAL BLACK HEXAGON;:0BLACK LARGE CIRCLE;:1MEDIUM DIAMOND
:0WHITE MEDIUM DIAMOND;:0BLACK MEDIUM LOZENGE;:0WHITE MEDIUM LOZENGE;:0BLACK SMALL DIAMOND
:2LOZENGE;:0WHITE SMALL LOZENGE;:0BLACK HORIZONTAL ELLIPSE;:0WHITE HORIZONTAL ELLIPSE
:0BLACK VERTICAL ELLIPSE;:0WHITE VERTICAL ELLIPSE;:0LEFT ARROW WITH SMALL CIRCLE
:0THREE LEFTWARDS ARROWS;:0LEFT ARROW WITH CIRCLED PLUS;:0LONG LEFTWARDS SQUIGGLE ARROW
:0LEFTWARDS TWO-HEADED ARROW WITH VERTICAL STROKE;:4DOUBLE VERTICAL STROKE;:3FROM BAR
:2TRIPLE DASH ARROW;:1ARROW WITH DOTTED STEM;:3TAIL WITH VERTICAL STROKE;:5DOUBLE VERTICAL STROKE
:1TWO-HEADED ARROW WITH TAIL;:5WITH VERTICAL STROKE;:6DOUBLE VERTICAL STROKE;:1ARROW THROUGH X
:0WAVE ARROW POINTING DIRECTLY LEFT;:0EQUALS SIGN ABOVE LEFTWARDS ARROW
:0REVERSE TILDE OPERATOR ABOVE LEFTWARDS ARROW;:0LEFTWARDS ARROW ABOVE REVERSE ALMOST EQUAL TO
:0RIGHTWARDS ARROW THROUGH GREATER-THAN;:3SUPERSET;:0LEFTWARDS QUADRUPLE ARROW
:0RIGHTWARDS QUADRUPLE ARROW;:0REVERSE TILDE OPERATOR ABOVE RIGHTWARDS ARROW
:0RIGHTWARDS ARROW ABOVE REVERSE ALMOST EQUAL TO;:0TILDE OPERATOR ABOVE LEFTWARDS ARROW
:0LEFTWARDS ARROW ABOVE ALMOST EQUAL TO;:3REVERSE TILDE OPERATOR
:0RIGHTWARDS ARROW ABOVE REVERSE TILDE OPERATOR;:0DOWNWARDS TRIANGLE-HEADED ZIGZAG ARROW
:0SHORT SLANTED NORTH ARROW;:1BACKSLANTED SOUTH ARROW;:0WHITE MEDIUM STAR;:0BLACK SMALL STAR
:0WHITE SMALL STAR;:0BLACK RIGHT-POINTING PENTAGON;:0WHITE RIGHT-POINTING PENTAGON
:0HEAVY LARGE CIRCLE;:1OVAL WITH OVAL INSIDE;:1CIRCLE WITH CIRCLE INSIDE;:1CIRCLE
:1CIRCLED SALTIRE;3000:0IDEOGRAPHIC SPACE;:1COMMA;:1FULL STOP;:0DITTO MARK
:0JAPANESE INDUSTRIAL STANDARD SYMBOL;:0IDEOGRAPHIC ITERATION MARK;:1CLOSING MARK;:1NUMBER ZERO
:0LEFT ANGLE BRACKET;:0RIGHT ANGLE BRACKET;:0LEFT DOUBLE ANGLE BRACKET
:0RIGHT DOUBLE ANGLE BRACKET;:0LEFT CORNER BRACKET;:0RIGHT CORNER BRACKET
:0LEFT WHITE CORNER BRACKET;:0RIGHT WHITE CORNER BRACKET;:0LEFT BLACK LENTICULAR BRACKET
:0RIGHT BLACK LENTICULAR BRACKET;:0POSTAL MARK;:0GETA MARK;:0LEFT TORTOISE SHELL BRACKET
:0RIGHT TORTOISE SHELL BRACKET;:0LEFT WHITE LENTICULAR BRACKET;:0RIGHT WHITE LENTICULAR BRACKET
:0LEFT WHITE TORTOISE SHELL BRACKET;:0RIGHT WHITE TORTOISE SHELL BRACKET
:0LEFT WHITE SQUARE BRACKET;:0RIGHT WHITE SQUARE BRACKET;:0WAVE DASH
:0REVERSED DOUBLE PRIME QUOTATION MARK;:0DOUBLE PRIME QUOTATION MARK
:0LOW DOUBLE PRIME QUOTATION MARK;:0POSTAL MARK FACE;:0HANGZHOU NUMERAL ONE;:2TWO;:2THREE;:2FOUR
:2FIVE;:2SIX;:2SEVEN;:2EIGHT;:2NINE;:0IDEOGRAPHIC LEVEL TONE MARK;:1RISING TONE MARK
:1DEPARTING TONE MARK;:1ENTERING TONE MARK;:0HANGUL SINGLE DOT TONE MARK;:1DOUBLE DOT TONE MARK
:0WAVY DASH;:0VERTICAL KANA REPEAT MARK;:3WITH VOICED SOUND MARK;:3MARK UPPER HALF
:3WITH VOICED SOUND MARK UPPER HALF;:3MARK LOWER HALF;:0CIRCLED POSTAL MARK
:0IDEOGRAPHIC TELEGRAPH LINE FEED SEPARATOR SYMBOL;:0HANGZHOU NUMERAL TEN;:2TWENTY;:2THIRTY
:0VERTICAL IDEOGRAPHIC ITERATION MARK;:0MASU MARK;:0PART ALTERNATION MARK
:0IDEOGRAPHIC VARIATION INDICATOR;:1HALF FILL SPACE;3041:0HIRAGANA LETTER SMALL A;:2A;:2SMALL I
:2I;:2SMALL U;:2U;:2SMALL E;:2E;:2SMALL O;:2O;:2KA;:2GA;:2KI;:2GI;:2KU;:2GU;:2KE;:2GE;:2KO;:2GO
:2SA;:2ZA;:2SI;:2ZI;:2SU;:2ZU;:2SE;:2ZE;:2SO;:2ZO;:2TA;:2DA;:2TI;:2DI;:2SMALL TU;:2TU;:2DU;:2TE
:2DE;:2TO;:2DO;:2NA;:2NI;:2NU;:2NE;:2NO;:2HA;:2BA;:2PA;:2HI;:2BI;:2PI;:2HU;:2BU;:2PU;:2HE;:2BE
:2PE;:2HO;:2BO;:2PO;:2MA;:2MI;:2MU;:2ME;:2MO;:2SMALL YA;:2YA;:2SMALL YU;:2YU;:2SMALL YO;:2YO;:2RA
:2RI;:2RU;:2RE;:2RO;:2SMALL WA;:2WA;:2WI;:2WE;:2WO;:2N;:2VU;:2SMALL KA;:3KE
3099:0COMBINING KATAKANA-HIRAGANA VOICED SOUND MARK;:2SEMI-VOICED SOUND MARK
:0KATAKANA-HIRAGANA VOICED SOUND MARK;:1SEMI-VOICED SOUND MARK;:0HIRAGANA ITERATION MARK
:1VOICED ITERATION MARK;:1DIGRAPH YORI;:0KATAKANA-HIRAGANA DOUBLE HYPHEN
:0KATAKANA LETTER SMALL A;:2A;:2SMALL I;:2I;:2SMALL U;:2U;:2SMALL E;:2E;:2SMALL O;:2O;:2KA;:2GA
:2KI;:2GI;:2KU;:2GU;:2KE;:2GE;:2KO;:2GO;:2SA;:2ZA;:2SI;:2ZI;:2SU;:2ZU;:2SE;:2ZE;:2SO;:2ZO;:2TA
:2DA;:2TI;:2DI;:2SMALL TU;:2TU;:2DU;:2TE;:2DE;:2TO;:2DO;:2NA;:2NI;:2NU;:2NE;:2NO;:2HA;:2BA;:2PA
:2HI;:2BI;:2PI;:2HU;:2BU;:2PU;:2HE;:2BE;:2PE;:2HO;:2BO;:2PO;:2MA;:2MI;:2MU;:2ME;:2MO;:2SMALL YA
:2YA;:2SMALL YU;:2YU;:2SMALL YO;:2YO;:2RA;:2RI;:2RU;:2RE;:2RO;:2SMALL WA;:2WA;:2WI;:2WE;:2WO;:2N
:2VU;:2SMALL KA;:3KE;:2VA;:2VI;:2VE;:2VO;:1MIDDLE DOT;:0KATAKANA-HIRAGANA PROLONGED SOUND MARK
:0KATAKANA ITERATION MARK;:1VOICED ITERATION MARK;:1DIGRAPH KOTO;fb00:0LATIN SMALL LIGATURE FF
:3FI;:3FL;:3FFI;:3FFL;:3LONG S T;:3ST;fe00:0VARIATION SELECTOR-1;:1SELECTOR-2;:1SELECTOR-3
:1SELECTOR-4;:1SELECTOR-5;:1SELECTOR-6;:1SELECTOR-7;:1SELECTOR-8;:1SELECTOR-9;:1SELECTOR-10
:1SELECTOR-11;:1SELECTOR-12;:1SELECTOR-13;:1SELECTOR-14;:1SELECTOR-15;:1SELECTOR-16
feff:0ZERO WIDTH NO-BREAK SPACE;ff01:0FULLWIDTH EXCLAMATION MARK;:1QUOTATION MARK;:1NUMBER SIGN
:1DOLLAR SIGN;:1PERCENT SIGN;:1AMPERSAND;:1APOSTROPHE;:1LEFT PARENTHESIS;:1RIGHT PARENTHESIS
:1ASTERISK;:1PLUS SIGN;:1COMMA;:1HYPHEN-MINUS;:1FULL STOP;:1SOLIDUS;:1DIGIT ZERO;:2ONE;:2TWO
:2THREE;:2FOUR;:2FIVE;:2SIX;:2SEVEN;:2EIGHT;:2NINE;:1COLON;:1SEMICOLON;:1LESS-THAN SIGN
:1EQUALS SIGN;:1GREATER-THAN SIGN;:1QUESTION MARK;:1COMMERCIAL AT;:1LATIN CAPITAL LETTER A;:4B
:4C;:4D;:4E;:4F;:4G;:4H;:4I;:4J;:4K;:4L;:4M;:4N;:4O;:4P;:4Q;:4R;:4S;:4T;:4U;:4V;:4W;:4X;:4Y;:4Z
:1LEFT SQUARE BRACKET;:1REVERSE SOLIDUS;:1RIGHT SQUARE BRACKET;:1CIRCUMFLEX ACCENT;:1LOW LINE
:1GRAVE ACCENT;:1LATIN SMALL LETTER A;:4B;:4C;:4D;:4E;:4F;:4G;:4H;:4I;:4J;:4K;:4L;:4M;:4N;:4O;:4P
:4Q;:4R;:4S;:4T;:4U;:4V;:4W;:4X;:4Y;:4Z;:1LEFT CURLY BRACKET;:1VERTICAL LINE
:1RIGHT CURLY BRACKET;:1TILDE;ffe0:1CENT SIGN;:1POUND SIGN;:1NOT SIGN;:1MACRON;:1BROKEN BAR
:1YEN SIGN;:1WON SIGN;fffc:0OBJECT REPLACEMENT CHARACTER;:0REPLACEMENT CHARACTER
1d400:0MATHEMATICAL BOLD CAPITAL A;:3B;:3C;:3D;:3E;:3F;:3G;:3H;:3I;:3J;:3K;:3L;:3M;:3N;:3O;:3P
:3Q;:3R;:3S;:3T;:3U;:3V;:3W;:3X;:3Y;:3Z;:2SMALL A;:3B;:3C;:3D;:3E;:3F;:3G;:3H;:3I;:3J;:3K;:3L;:3M
:3N;:3O;:3P;:3Q;:3R;:3S;:3T;:3U;:3V;:3W;:3X;:3Y;:3Z;:1ITALIC CAPITAL A;:3B;:3C;:3D;:3E;:3F;:3G
:3H;:3I;:3J;:3K;:3L;:3M;:3N;:3O;:3P;:3Q;:3R;:3S;:3T;:3U;:3V;:3W;:3X;:3Y;:3Z;:2SMALL A;:3B;:3C;:3D
:3E;:3F;:3G;1d456:3I;:3J;:3K;:3L;:3M;:3N;:3O;:3P;:3Q;:3R;:3S;:3T;:3U;:3V;:3W;:3X;:3Y;:3Z
:1BOLD ITALIC CAPITAL A;:4B;:4C;:4D;:4E;:4F;:4G;:4H;:4I;:4J;:4K;:4L;:4M;:4N;:4O;:4P;:4Q;:4R;:4S
:4T;:4U;:4V;:4W;:4X;:4Y;:4Z;:3SMALL A;:4B;:4C;:4D;:4E;:4F;:4G;:4H;:4I;:4J;:4K;:4L;:4M;:4N;:4O;:4P
:4Q;:4R;:4S;:4T;:4U;:4V;:4W;:4X;:4Y;:4Z;:1SCRIPT CAPITAL A;1d49e:3C;:3D;1d4a2:3G;1d4a5:3J;:3K
1d4a9:3N;:3O;:3P;:3Q;1d4ae:3S;:3T;:3U;:3V;:3W;:3X;:3Y;:3Z;:2SMALL A;:3B;:3C;:3D;1d4bb:3F;1d4bd:3H
:3I;:3J;:3K;:3L;:3M;:3N;1d4c5:3P;:3Q;:3R;:3S;:3T;:3U;:3V;:3W;:3X;:3Y;:3Z;:1BOLD SCRIPT CAPITAL A
:4B;:4C;:4D;:4E;:4F;:4G;:4H;:4I;:4J;:4K;:4L;:4M;:4N;:4O;:4P;:4Q;:4R;:4S;:4T;:4U;:4V;:4W;:4X;:4Y
:4Z;:3SMALL A;:4B;:4C;:4D;:4E;:4F;:4G;:4H;:4I;:4J;:4K;:4L;:4M;:4N;:4O;:4P;:4Q;:4R;:4S;:4T;:4U;:4V
1d7ce:2DIGIT ZERO;:3ONE;:3TWO;:3THREE;:3FOUR;:3FIVE;:3SIX;:3SEVEN;:3EIGHT;:3NINE
:1DOUBLE-STRUCK DIGIT ZERO;:3ONE;:3TWO;:3THREE;:3FOUR;:3FIVE;:3SIX;:3SEVEN;:3EIGHT;:3NINE
:1SANS-SERIF DIGIT ZERO;:3ONE;:3TWO;:3THREE;:3FOUR;:3FIVE;:3SIX;:3SEVEN;:3EIGHT;:3NINE
:2BOLD DIGIT ZERO;:4ONE;:4TWO;:4THREE;:4FOUR;:4FIVE;:4SIX;:4SEVEN;:4EIGHT;:4NINE
:1MONOSPACE DIGIT ZERO;:3ONE;:3TWO;:3THREE;:3FOUR;:3FIVE;:3SIX;:3SEVEN;:3EIGHT;:3NINE
1f000:0MAHJONG TILE EAST WIND;:2SOUTH WIND;:2WEST WIND;:2NORTH WIND;:2RED DRAGON;:2GREEN DRAGON
:2WHITE DRAGON;:2ONE OF CHARACTERS;:2TWO OF CHARACTERS;:2THREE OF CHARACTERS;:2FOUR OF CHARACTERS
:2FIVE OF CHARACTERS;:2SIX OF CHARACTERS;:2SEVEN OF CHARACTERS;:2EIGHT OF CHARACTERS
:2NINE OF CHARACTERS;:2ONE OF BAMBOOS;:2TWO OF BAMBOOS;:2THREE OF BAMBOOS;:2FOUR OF BAMBOOS
:2FIVE OF BAMBOOS;:2SIX OF BAMBOOS;:2SEVEN OF BAMBOOS;:2EIGHT OF BAMBOOS;:2NINE OF BAMBOOS
:2ONE OF CIRCLES;:2TWO OF CIRCLES;:2THREE OF CIRCLES;:2FOUR OF CIRCLES;:2FIVE OF CIRCLES
:2SIX OF CIRCLES;:2SEVEN OF CIRCLES;:2EIGHT OF CIRCLES;:2NINE OF CIRCLES;:2PLUM;:2ORCHID;:2BAMBOO
:2CHRYSANTHEMUM;:2SPRING;:2SUMMER;:2AUTUMN;:2WINTER;:2JOKER;:2BACK;1f0a0:0PLAYING CARD BACK
:2ACE OF SPADES;:2TWO OF SPADES;:2THREE OF SPADES;:2FOUR OF SPADES;:2FIVE OF SPADES
:2SIX OF SPADES;:2SEVEN OF SPADES;:2EIGHT OF SPADES;:2NINE OF SPADES;:2TEN OF SPADES
:2JACK OF SPADES;:2KNIGHT OF SPADES;:2QUEEN OF SPADES;:2KING OF SPADES;1f0b1:2ACE OF HEARTS
:2TWO OF HEARTS;:2THREE OF HEARTS;:2FOUR OF HEARTS;:2FIVE OF HEARTS;:2SIX OF HEARTS
:2SEVEN OF HEARTS;:2EIGHT OF HEARTS;:2NINE OF HEARTS;:2TEN OF HEARTS;:2JACK OF HEARTS
:2KNIGHT OF HEARTS;:2QUEEN OF HEARTS;:2KING OF HEARTS;:2RED JOKER;1f0c1:2ACE OF DIAMONDS
:2TWO OF DIAMONDS;:2THREE OF DIAMONDS;:2FOUR OF DIAMONDS;:2FIVE OF DIAMONDS;:2SIX OF DIAMONDS
:2SEVEN OF DIAMONDS;:2EIGHT OF DIAMONDS;:2NINE OF DIAMONDS;:2TEN OF DIAMONDS;:2JACK OF DIAMONDS
:2KNIGHT OF DIAMONDS;:2QUEEN OF DIAMONDS;:2KING OF DIAMONDS;:2BLACK JOKER;1f0d1:2ACE OF CLUBS
:2TWO OF CLUBS;:2THREE OF CLUBS;:2FOUR OF CLUBS;:2FIVE OF CLUBS;:2SIX OF CLUBS;:2SEVEN OF CLUBS
:2EIGHT OF CLUBS;:2NINE OF CLUBS;:2TEN OF CLUBS;:2JACK OF CLUBS;:2KNIGHT OF CLUBS
:2QUEEN OF CLUBS;:2KING OF CLUBS;:2WHITE JOKER;:2FOOL;:2TRUMP-1;:2TRUMP-2;:2TRUMP-3;:2TRUMP-4
:2TRUMP-5;:2TRUMP-6;:2TRUMP-7;:2TRUMP-8;:2TRUMP-9;:2TRUMP-10;:2TRUMP-11;:2TRUMP-12;:2TRUMP-13
:2TRUMP-14;:2TRUMP-15;:2TRUMP-16;:2TRUMP-17;:2TRUMP-18;:2TRUMP-19;:2TRUMP-20;:2TRUMP-21
1f1e6:0REGIONAL INDICATOR SYMBOL LETTER A;:4B;:4C;:4D;:4E;:4F;:4G;:4H;:4I;:4J;:4K;:4L;:4M;:4N;:4O
:4P;:4Q;:4R;:4S;:4T;:4U;:4V;:4W;:4X;:4Y;:4Z;1f300:0CYCLONE;:0FOGGY;:0CLOSED UMBRELLA
:0NIGHT WITH STARS;:0SUNRISE OVER MOUNTAINS;:0SUNRISE;:0CITYSCAPE AT DUSK;:0SUNSET OVER BUILDINGS
:0RAINBOW;:0BRIDGE AT NIGHT;:0WATER WAVE;:0VOLCANO;:0MILKY WAY;:0EARTH GLOBE EUROPE-AFRICA
:2AMERICAS;:2ASIA-AUSTRALIA;:0GLOBE WITH MERIDIANS;:0NEW MOON SYMBOL
:0WAXING CRESCENT MOON SYMBOL;:0FIRST QUARTER MOON SYMBOL;:0WAXING GIBBOUS MOON SYMBOL
:0FULL MOON SYMBOL;:0WANING GIBBOUS MOON SYMBOL;:0LAST QUARTER MOON SYMBOL
:0WANING CRESCENT MOON SYMBOL;:0CRESCENT MOON;:0NEW MOON WITH FACE;:0FIRST QUARTER MOON WITH FACE
:0LAST QUARTER MOON WITH FACE;:0FULL MOON WITH FACE;:0SUN WITH FACE;:0GLOWING STAR
:0SHOOTING STAR;:0THERMOMETER;:0BLACK DROPLET;:0WHITE SUN;:2WITH SMALL CLOUD;:2BEHIND CLOUD
:4WITH RAIN;:0CLOUD WITH RAIN;:2SNOW;:2LIGHTNING;:2TORNADO;:0FOG;:0WIND BLOWING FACE;:0HOT DOG
:0TACO;:0BURRITO;:0CHESTNUT;:0SEEDLING;:0EVERGREEN TREE;:0DECIDUOUS TREE;:0PALM TREE;:0CACTUS
:0HOT PEPPER;:0TULIP;:0CHERRY BLOSSOM;:0ROSE;:0HIBISCUS;:0SUNFLOWER;:0BLOSSOM;:0EAR OF MAIZE
:2RICE;:0HERB;:0FOUR LEAF CLOVER;:0MAPLE LEAF;:0FALLEN LEAF;:0LEAF FLUTTERING IN WIND;:0MUSHROOM
:0TOMATO;:0AUBERGINE;:0GRAPES;:0MELON;:0WATERMELON;:0TANGERINE;:0LEMON;:0BANANA;:0PINEAPPLE
:0RED APPLE;:0GREEN APPLE;:0PEAR;:0PEACH;:0CHERRIES;:0STRAWBERRY;:0HAMBURGER;:0SLICE OF PIZZA
:0MEAT ON BONE;:0POULTRY LEG;:0RICE CRACKER;:1BALL;:0COOKED RICE;:0CURRY AND RICE;:0STEAMING BOWL
:0SPAGHETTI;:0BREAD;:0FRENCH FRIES;:0ROASTED SWEET POTATO;:0DANGO;:0ODEN;:0SUSHI;:0FRIED SHRIMP
:0FISH CAKE WITH SWIRL DESIGN;:0SOFT ICE CREAM;:0SHAVED ICE;:0ICE CREAM;:0DOUGHNUT;:0COOKIE
:0CHOCOLATE BAR;:0CANDY;:0LOLLIPOP;:0CUSTARD;:0HONEY POT;:0SHORTCAKE;:0BENTO BOX;:0POT OF FOOD
:0COOKING;:0FORK AND KNIFE;:0TEACUP WITHOUT HANDLE;:0SAKE BOTTLE AND CUP;:0WINE GLASS
:0COCKTAIL GLASS;:0TROPICAL DRINK;:0BEER MUG;:0CLINKING BEER MUGS;:0BABY BOTTLE
:0FORK AND KNIFE WITH PLATE;:0BOTTLE WITH POPPING CORK;:0POPCORN;:0RIBBON;:0WRAPPED PRESENT
:0BIRTHDAY CAKE;:0JACK-O-LANTERN;:0CHRISTMAS TREE;:0FATHER CHRISTMAS;:0FIREWORKS
:0FIREWORK SPARKLER;:0BALLOON;:0PARTY POPPER;:0CONFETTI BALL;:0TANABATA TREE;:0CROSSED FLAGS
:0PINE DECORATION;:0JAPANESE DOLLS;:0CARP STREAMER;:0WIND CHIME;:0MOON VIEWING CEREMONY
:0SCHOOL SATCHEL;:0GRADUATION CAP;:0HEART WITH TIP ON THE LEFT;:0BOUQUET OF FLOWERS
:0MILITARY MEDAL;:0REMINDER RIBBON;:0MUSICAL KEYBOARD WITH JACKS;:0STUDIO MICROPHONE
:0LEVEL SLIDER;:0CONTROL KNOBS;:0BEAMED ASCENDING MUSICAL NOTES;:1DESCENDING MUSICAL NOTES
:0FILM FRAMES;:0ADMISSION TICKETS;:0CAROUSEL HORSE;:0FERRIS WHEEL;:0ROLLER COASTER
:0FISHING POLE AND FISH;:0MICROPHONE;:0MOVIE CAMERA;:0CINEMA;:0HEADPHONE;:0ARTIST PALETTE
:0TOP HAT;:0CIRCUS TENT;:0TICKET;:0CLAPPER BOARD;:0PERFORMING ARTS;:0VIDEO GAME;:0DIRECT HIT
:0SLOT MACHINE;:0BILLIARDS;:0GAME DIE;:0BOWLING;:0FLOWER PLAYING CARDS;:0MUSICAL NOTE
:0MULTIPLE MUSICAL NOTES;:0SAXOPHONE;:0GUITAR;:0MUSICAL KEYBOARD;:0TRUMPET;:0VIOLIN
:0MUSICAL SCORE;:0RUNNING SHIRT WITH SASH;:0TENNIS RACQUET AND BALL;:0SKI AND SKI BOOT
:0BASKETBALL AND HOOP;:0CHEQUERED FLAG;:0SNOWBOARDER;:0RUNNER;:0SURFER;:0SPORTS MEDAL;:0TROPHY
:0HORSE RACING;:0AMERICAN FOOTBALL;:0RUGBY FOOTBALL;:0SWIMMER;:0WEIGHT LIFTER;:0GOLFER
:0RACING MOTORCYCLE;:1CAR;:0CRICKET BAT AND BALL;:0VOLLEYBALL;:0FIELD HOCKEY STICK AND BALL
:0ICE HOCKEY STICK AND PUCK;:0TABLE TENNIS PADDLE AND BALL;:0SNOW CAPPED MOUNTAIN;:0CAMPING
:0BEACH WITH UMBRELLA;:0BUILDING CONSTRUCTION;:0HOUSE BUILDINGS;:0CITYSCAPE
:0DERELICT HOUSE BUILDING;:0CLASSICAL BUILDING;:0DESERT;:1ISLAND;:0NATIONAL PARK;:0STADIUM
:0HOUSE BUILDING;:1WITH GARDEN;:0OFFICE BUILDING;:0JAPANESE POST OFFICE;:0EUROPEAN POST OFFICE
:0HOSPITAL;:0BANK;:0AUTOMATED TELLER MACHINE;:0HOTEL;:0LOVE HOTEL;:0CONVENIENCE STORE;:0SCHOOL
:0DEPARTMENT STORE;:0FACTORY;:0IZAKAYA LANTERN;:0JAPANESE CASTLE;:0EUROPEAN CASTLE
:0WHITE PENNANT;:0BLACK PENNANT;:0WAVING WHITE FLAG;:1BLACK FLAG;:0ROSETTE;:0BLACK ROSETTE
:0LABEL;:0BADMINTON RACQUET AND SHUTTLECOCK;:0BOW AND ARROW;:0AMPHORA
:0EMOJI MODIFIER FITZPATRICK TYPE-1-2;:3TYPE-3;:3TYPE-4;:3TYPE-5;:3TYPE-6;:0RAT;:0MOUSE;:0OX
:0WATER BUFFALO;:0COW;:0TIGER;:0LEOPARD;:0RABBIT;:0CAT;:0DRAGON;:0CROCODILE;:0WHALE;:0SNAIL
:0SNAKE;:0HORSE;:0RAM;:0GOAT;:0SHEEP;:0MONKEY;:0ROOSTER;:0CHICKEN;:0DOG;:0PIG;:0BOAR;:0ELEPHANT
:0OCTOPUS;:0SPIRAL SHELL;:0BUG;:0ANT;:0HONEYBEE;:0LADY BEETLE;:0FISH;:0TROPICAL FISH;:0BLOWFISH
:0TURTLE;:0HATCHING CHICK;:0BABY CHICK;:0FRONT-FACING BABY CHICK;:0BIRD;:0PENGUIN;:0KOALA
:0POODLE;:0DROMEDARY CAMEL;:0BACTRIAN CAMEL;:0DOLPHIN;:0MOUSE FACE;:0COW FACE;:0TIGER FACE
:0RABBIT FACE;:0CAT FACE;:0DRAGON FACE;:0SPOUTING WHALE;:0HORSE FACE;:0MONKEY FACE;:0DOG FACE
:0PIG FACE;:0FROG FACE;:0HAMSTER FACE;:0WOLF FACE;:0BEAR FACE;:0PANDA FACE;:0PIG NOSE
:0PAW PRINTS;:0CHIPMUNK;:0EYES;:0EYE;:0EAR;:0NOSE;:0MOUTH;:0TONGUE
:0WHITE UP POINTING BACKHAND INDEX;:1DOWN POINTING BACKHAND INDEX;:1LEFT POINTING BACKHAND INDEX
:1RIGHT POINTING BACKHAND INDEX;:0FISTED HAND SIGN;:0WAVING HAND SIGN;:0OK HAND SIGN
:0THUMBS UP SIGN;:1DOWN SIGN;:0CLAPPING HANDS SIGN;:0OPEN HANDS SIGN;:0CROWN;:0WOMANS HAT
:0EYEGLASSES;:0NECKTIE;:0T-SHIRT;:0JEANS;:0DRESS;:0KIMONO;:0BIKINI;:0WOMANS CLOTHES;:0PURSE
:0HANDBAG;:0POUCH;:0MANS SHOE;:0ATHLETIC SHOE;:0HIGH-HEELED SHOE;:0WOMANS SANDAL;:1BOOTS
:0FOOTPRINTS;:0BUST IN SILHOUETTE;:0BUSTS IN SILHOUETTE;:0BOY;:0GIRL;:0MAN;:0WOMAN;:0FAMILY
:0MAN AND WOMAN HOLDING HANDS;:0TWO MEN HOLDING HANDS;:1WOMEN HOLDING HANDS;:0POLICE OFFICER
:0WOMAN WITH BUNNY EARS;:0BRIDE WITH VEIL;:0PERSON WITH BLOND HAIR;:0MAN WITH GUA PI MAO;:2TURBAN
:0OLDER MAN;:1WOMAN;:0BABY;:0CONSTRUCTION WORKER;:0PRINCESS;:0JAPANESE OGRE;:1GOBLIN;:0GHOST
:0BABY ANGEL;:0EXTRATERRESTRIAL ALIEN;:0ALIEN MONSTER;:0IMP;:0SKULL;:0INFORMATION DESK PERSON
:0GUARDSMAN;:0DANCER;:0LIPSTICK;:0NAIL POLISH;:0FACE MASSAGE;:0HAIRCUT;:0BARBER POLE;:0SYRINGE
:0PILL;:0KISS MARK;:0LOVE LETTER;:0RING;:0GEM STONE;:0KISS;:0BOUQUET;:0COUPLE WITH HEART
:0WEDDING;:0BEATING HEART;:0BROKEN HEART;:0TWO HEARTS;:0SPARKLING HEART;:0GROWING HEART
:0HEART WITH ARROW;:0BLUE HEART;:0GREEN HEART;:0YELLOW HEART;:0PURPLE HEART;:0HEART WITH RIBBON
:0REVOLVING HEARTS;:0HEART DECORATION;:0DIAMOND SHAPE WITH A DOT INSIDE;:0ELECTRIC LIGHT BULB
:0ANGER SYMBOL;:0BOMB;:0SLEEPING SYMBOL;:0COLLISION SYMBOL;:0SPLASHING SWEAT SYMBOL;:0DROPLET
:0DASH SYMBOL;:0PILE OF POO;:0FLEXED BICEPS;:0DIZZY SYMBOL;:0SPEECH BALLOON;:0THOUGHT BALLOON
:0WHITE FLOWER;:0HUNDRED POINTS SYMBOL;:0MONEY BAG;:0CURRENCY EXCHANGE;:0HEAVY DOLLAR SIGN
:0CREDIT CARD;:0BANKNOTE WITH YEN SIGN;:2DOLLAR SIGN;:2EURO SIGN;:2POUND SIGN;:0MONEY WITH WINGS
:0CHART WITH UPWARDS TREND AND YEN SIGN;:0SEAT;:0PERSONAL COMPUTER;:0BRIEFCASE;:0MINIDISC
:0FLOPPY DISK;:0OPTICAL DISC;:0DVD;:0FILE FOLDER;:0OPEN FILE FOLDER;:0PAGE WITH CURL;:1FACING UP
:0CALENDAR;:0TEAR-OFF CALENDAR;:0CARD INDEX;:0CHART WITH UPWARDS TREND;:2DOWNWARDS TREND
:0BAR CHART;:0CLIPBOARD;:0PUSHPIN;:0ROUND PUSHPIN;:0PAPERCLIP;:0STRAIGHT RULER;:0TRIANGULAR RULER
:0BOOKMARK TABS;:0LEDGER;:0NOTEBOOK;:1WITH DECORATIVE COVER;:0CLOSED BOOK;:0OPEN BOOK
:0GREEN BOOK;:0BLUE BOOK;:0ORANGE BOOK;:0BOOKS;:0NAME BADGE;:0SCROLL;:0MEMO;:0TELEPHONE RECEIVER
:0PAGER;:0FAX MACHINE;:0SATELLITE ANTENNA;:0PUBLIC ADDRESS LOUDSPEAKER;:0CHEERING MEGAPHONE
:0OUTBOX TRAY;:0INBOX TRAY;:0PACKAGE;:0E-MAIL SYMBOL;:0INCOMING ENVELOPE
:0ENVELOPE WITH DOWNWARDS ARROW ABOVE;:0CLOSED MAILBOX WITH LOWERED FLAG;:3RAISED FLAG
:0OPEN MAILBOX WITH RAISED FLAG;:3LOWERED FLAG;:0POSTBOX;:0POSTAL HORN;:0NEWSPAPER;:0MOBILE PHONE
:2WITH RIGHTWARDS ARROW AT LEFT;:0VIBRATION MODE;:0MOBILE PHONE OFF;:0NO MOBILE PHONES
:0ANTENNA WITH BARS;:0CAMERA;:1WITH FLASH;:0VIDEO CAMERA;:0TELEVISION;:0RADIO;:0VIDEOCASSETTE
:0FILM PROJECTOR;:0PORTABLE STEREO;:0PRAYER BEADS;:0TWISTED RIGHTWARDS ARROWS
:0CLOCKWISE RIGHTWARDS AND LEFTWARDS OPEN CIRCLE ARROWS;:7WITH CIRCLED ONE OVERLAY
:1DOWNWARDS AND UPWARDS OPEN CIRCLE ARROWS
:0ANTICLOCKWISE DOWNWARDS AND UPWARDS OPEN CIRCLE ARROWS;:0LOW BRIGHTNESS SYMBOL
:0HIGH BRIGHTNESS SYMBOL;:0SPEAKER WITH CANCELLATION STROKE;:0SPEAKER;:1WITH ONE SOUND WAVE
:2THREE SOUND WAVES;:0BATTERY;:0ELECTRIC PLUG;:0LEFT-POINTING MAGNIFYING GLASS
:0RIGHT-POINTING MAGNIFYING GLASS;:0LOCK WITH INK PEN;:0CLOSED LOCK WITH KEY;:0KEY;:0LOCK
:0OPEN LOCK;:0BELL;:1WITH CANCELLATION STROKE;:0BOOKMARK;:0LINK SYMBOL;:0RADIO BUTTON
:0BACK WITH LEFTWARDS ARROW ABOVE;:0END WITH LEFTWARDS ARROW ABOVE
:0ON WITH EXCLAMATION MARK WITH LEFT RIGHT ARROW ABOVE;:0SOON WITH RIGHTWARDS ARROW ABOVE
:0TOP WITH UPWARDS ARROW ABOVE;:0NO ONE UNDER EIGHTEEN SYMBOL;:0KEYCAP TEN
:0INPUT SYMBOL FOR LATIN CAPITAL LETTERS;:4SMALL LETTERS;:3NUMBERS;:3SYMBOLS;:3LATIN LETTERS
:0FIRE;:0ELECTRIC TORCH;:0WRENCH;:0HAMMER;:0NUT AND BOLT;:0HOCHO;:0PISTOL;:0MICROSCOPE
:0TELESCOPE;:0CRYSTAL BALL;:0SIX POINTED STAR WITH MIDDLE DOT;:0JAPANESE SYMBOL FOR BEGINNER
:0TRIDENT EMBLEM;:0BLACK SQUARE BUTTON;:0WHITE SQUARE BUTTON;:0LARGE RED CIRCLE;:1BLUE CIRCLE
:1ORANGE DIAMOND;:1BLUE DIAMOND;:0SMALL ORANGE DIAMOND;:1BLUE DIAMOND;:0UP-POINTING RED TRIANGLE
:0DOWN-POINTING RED TRIANGLE;:0UP-POINTING SMALL RED TRIANGLE;:0DOWN-POINTING SMALL RED TRIANGLE
:0LOWER RIGHT SHADOWED WHITE CIRCLE;:0UPPER RIGHT SHADOWED WHITE CIRCLE;:0CIRCLED CROSS POMMEE
:0CROSS POMMEE WITH HALF-CIRCLE BELOW;:1POMMEE;:0NOTCHED LEFT SEMICIRCLE WITH THREE DOTS
:1RIGHT SEMICIRCLE WITH THREE DOTS;:0SYMBOL FOR MARKS CHAPTER;:0WHITE LATIN CROSS
:0HEAVY LATIN CROSS;:0CELTIC CROSS;:0OM SYMBOL;:0DOVE OF PEACE;:0KAABA;:0MOSQUE;:0SYNAGOGUE
:0MENORAH WITH NINE BRANCHES;:0BOWL OF HYGIEIA;:0CLOCK FACE ONE OCLOCK;:2TWO OCLOCK
:2THREE OCLOCK;:2FOUR OCLOCK;:2FIVE OCLOCK;:2SIX OCLOCK;:2SEVEN OCLOCK;:2EIGHT OCLOCK
:2NINE OCLOCK;:2TEN OCLOCK;:2ELEVEN OCLOCK;:2TWELVE OCLOCK;:2ONE-THIRTY;:2TWO-THIRTY
:2THREE-THIRTY;:2FOUR-THIRTY;:2FIVE-THIRTY;:2SIX-THIRTY;:2SEVEN-THIRTY;:2EIGHT-THIRTY
:2NINE-THIRTY;:2TEN-THIRTY;:2ELEVEN-THIRTY;:2TWELVE-THIRTY;:0RIGHT SPEAKER;:2WITH ONE SOUND WAVE
:3THREE SOUND WAVES;:0BULLHORN;:1WITH SOUND WAVES;:0RINGING BELL;:0BOOK;:0CANDLE
:0MANTELPIECE CLOCK;:0BLACK SKULL AND CROSSBONES;:0NO PIRACY;:0HOLE
:0MAN IN BUSINESS SUIT LEVITATING;:0SLEUTH OR SPY;:0DARK SUNGLASSES;:0SPIDER;:1WEB;:0JOYSTICK
:0MAN DANCING;:0LEFT HAND TELEPHONE RECEIVER;:0TELEPHONE RECEIVER WITH PAGE
:0RIGHT HAND TELEPHONE RECEIVER;:0WHITE TOUCHTONE TELEPHONE;:0BLACK TOUCHTONE TELEPHONE
:0TELEPHONE ON TOP OF MODEM;:0CLAMSHELL MOBILE PHONE;:0BACK OF ENVELOPE;:0STAMPED ENVELOPE
:0ENVELOPE WITH LIGHTNING;:0FLYING ENVELOPE;:0PEN OVER STAMPED ENVELOPE;:0LINKED PAPERCLIPS
:0BLACK PUSHPIN;:0LOWER LEFT PENCIL;:2BALLPOINT PEN;:2FOUNTAIN PEN;:2PAINTBRUSH;:2CRAYON
:0LEFT WRITING HAND;:0TURNED OK HAND SIGN;:0RAISED HAND WITH FINGERS SPLAYED
:0REVERSED RAISED HAND WITH FINGERS SPLAYED;:1THUMBS UP SIGN;:2DOWN SIGN;:1VICTORY HAND
:1HAND WITH MIDDLE FINGER EXTENDED;:0RAISED HAND WITH PART BETWEEN MIDDLE AND RING FINGERS
:0WHITE DOWN POINTING LEFT HAND INDEX;:0SIDEWAYS WHITE LEFT POINTING INDEX;:2RIGHT POINTING INDEX
:1BLACK LEFT POINTING INDEX;:2RIGHT POINTING INDEX;:0BLACK LEFT POINTING BACKHAND INDEX
:1RIGHT POINTING BACKHAND INDEX;:0SIDEWAYS WHITE UP POINTING INDEX;:2DOWN POINTING INDEX
:1BLACK UP POINTING INDEX;:2DOWN POINTING INDEX;:0BLACK UP POINTING BACKHAND INDEX
:1DOWN POINTING BACKHAND INDEX;:1HEART;:0DESKTOP COMPUTER;:0KEYBOARD AND MOUSE
:0THREE NETWORKED COMPUTERS;:0PRINTER;:0POCKET CALCULATOR;:0BLACK HARD SHELL FLOPPY DISK
:0WHITE HARD SHELL FLOPPY DISK;:0SOFT SHELL FLOPPY DISK;:0TAPE CARTRIDGE;:0WIRED KEYBOARD
:0ONE BUTTON MOUSE;:0TWO BUTTON MOUSE;:0THREE BUTTON MOUSE;:0TRACKBALL;:0OLD PERSONAL COMPUTER
:0HARD DISK;:0SCREEN;:0PRINTER ICON;:0FAX ICON;:0OPTICAL DISC ICON;:0DOCUMENT WITH TEXT
:3AND PICTURE;:2PICTURE;:0FRAME WITH PICTURE;:2TILES;:2AN X;:0BLACK FOLDER;:0FOLDER;:0OPEN FOLDER
:0CARD INDEX DIVIDERS;:1FILE BOX;:0FILE CABINET;:0EMPTY NOTE;:2PAGE;:2PAD;:0NOTE;:1PAGE;:1PAD
:0EMPTY DOCUMENT;:1PAGE;:1PAGES;:0DOCUMENT;:0PAGE;:0PAGES;:0WASTEBASKET;:0SPIRAL NOTE PAD
:1CALENDAR PAD;:0DESKTOP WINDOW;:0MINIMIZE;:0MAXIMIZE;:0OVERLAP
:0CLOCKWISE RIGHT AND LEFT SEMICIRCLE ARROWS;:0CANCELLATION X;:0INCREASE FONT SIZE SYMBOL
:0DECREASE FONT SIZE SYMBOL;:0COMPRESSION;:0OLD KEY;:0ROLLED-UP NEWSPAPER
:0PAGE WITH CIRCLED TEXT;:0STOCK CHART;:0DAGGER KNIFE;:0LIPS;:0SPEAKING HEAD IN SILHOUETTE
:0THREE RAYS ABOVE;:2BELOW;:2LEFT;:2RIGHT;:0LEFT SPEECH BUBBLE;:0RIGHT SPEECH BUBBLE
:0TWO SPEECH BUBBLES;:0THREE SPEECH BUBBLES;:0LEFT THOUGHT BUBBLE;:0RIGHT THOUGHT BUBBLE
:0LEFT ANGER BUBBLE;:0RIGHT ANGER BUBBLE;:0MOOD BUBBLE;:0LIGHTNING MOOD BUBBLE;:1MOOD
:0BALLOT BOX WITH BALLOT;:1SCRIPT X;:1BOX WITH SCRIPT X;:1BOLD SCRIPT X;:1BOX WITH BOLD SCRIPT X
:0LIGHT CHECK MARK;:0BALLOT BOX WITH BOLD CHECK;:0WORLD MAP;:0MOUNT FUJI;:0TOKYO TOWER
:0STATUE OF LIBERTY;:0SILHOUETTE OF JAPAN;:0MOYAI;:0GRINNING FACE;:2WITH SMILING EYES
:0FACE WITH TEARS OF JOY;:0SMILING FACE WITH OPEN MOUTH;:5AND SMILING EYES;:6COLD SWEAT
:6TIGHTLY-CLOSED EYES;:3HALO;:3HORNS;:0WINKING FACE;:0SMILING FACE WITH SMILING EYES
:0FACE SAVOURING DELICIOUS FOOD;:0RELIEVED FACE;:0SMILING FACE WITH HEART-SHAPED EYES
:3SUNGLASSES;:0SMIRKING FACE;:0NEUTRAL FACE;:0EXPRESSIONLESS FACE;:0UNAMUSED FACE
:0FACE WITH COLD SWEAT;:0PENSIVE FACE;:0CONFUSED FACE;:0CONFOUNDED FACE;:0KISSING FACE
:0FACE THROWING A KISS;:0KISSING FACE WITH SMILING EYES;:3CLOSED EYES
:0FACE WITH STUCK-OUT TONGUE;:4AND WINKING EYE;:5TIGHTLY-CLOSED EYES;:0DISAPPOINTED FACE
:0WORRIED FACE;:0ANGRY FACE;:0POUTING FACE;:0CRYING FACE;:0PERSEVERING FACE
:0FACE WITH LOOK OF TRIUMPH;:0DISAPPOINTED BUT RELIEVED FACE;:0FROWNING FACE WITH OPEN MOUTH
:0ANGUISHED FACE;:0FEARFUL FACE;:0WEARY FACE;:0SLEEPY FACE;:0TIRED FACE;:0GRIMACING FACE
:0LOUDLY CRYING FACE;:0FACE WITH OPEN MOUTH;:0HUSHED FACE;:0FACE WITH OPEN MOUTH AND COLD SWEAT
:1SCREAMING IN FEAR;:0ASTONISHED FACE;:0FLUSHED FACE;:0SLEEPING FACE;:0DIZZY FACE
:0FACE WITHOUT MOUTH;:1WITH MEDICAL MASK;:0GRINNING CAT FACE WITH SMILING EYES
:0CAT FACE WITH TEARS OF JOY;:0SMILING CAT FACE WITH OPEN MOUTH;:4HEART-SHAPED EYES
:0CAT FACE WITH WRY SMILE;:0KISSING CAT FACE WITH CLOSED EYES;:0POUTING CAT FACE
:0CRYING CAT FACE;:0WEARY CAT FACE;:0SLIGHTLY FROWNING FACE;:1SMILING FACE;:0UPSIDE-DOWN FACE
:0FACE WITH ROLLING EYES;:2NO GOOD GESTURE;:2OK GESTURE;:0PERSON BOWING DEEPLY
:0SEE-NO-EVIL MONKEY;:0HEAR-NO-EVIL MONKEY;:0SPEAK-NO-EVIL MONKEY;:0HAPPY PERSON RAISING ONE HAND
:0PERSON RAISING BOTH HANDS IN CELEBRATION;:1FROWNING;:1WITH POUTING FACE;:2FOLDED HANDS
1f680:0ROCKET;:0HELICOPTER;:0STEAM LOCOMOTIVE;:0RAILWAY CAR;:0HIGH-SPEED TRAIN;:2WITH BULLET NOSE
:0TRAIN;:0METRO;:0LIGHT RAIL;:0STATION;:0TRAM;:1CAR;:0BUS;:0ONCOMING BUS;:0TROLLEYBUS;:0BUS STOP
:0MINIBUS;:0AMBULANCE;:0FIRE ENGINE;:0POLICE CAR;:0ONCOMING POLICE CAR;:0TAXI;:0ONCOMING TAXI
:0AUTOMOBILE;:0ONCOMING AUTOMOBILE;:0RECREATIONAL VEHICLE;:0DELIVERY TRUCK;:0ARTICULATED LORRY
:0TRACTOR;:0MONORAIL;:0MOUNTAIN RAILWAY;:0SUSPENSION RAILWAY;:0MOUNTAIN CABLEWAY;:0AERIAL TRAMWAY
:0SHIP;:0ROWBOAT;:0SPEEDBOAT;:0HORIZONTAL TRAFFIC LIGHT;:0VERTICAL TRAFFIC LIGHT
:0CONSTRUCTION SIGN;:0POLICE CARS REVOLVING LIGHT;:0TRIANGULAR FLAG ON POST;:0DOOR
:0NO ENTRY SIGN;:0SMOKING SYMBOL;:0NO SMOKING SYMBOL;:0PUT LITTER IN ITS PLACE SYMBOL
:0DO NOT LITTER SYMBOL;:0POTABLE WATER SYMBOL;:0NON-POTABLE WATER SYMBOL;:0BICYCLE;:0NO BICYCLES
:0BICYCLIST;:0MOUNTAIN BICYCLIST;:0PEDESTRIAN;:0NO PEDESTRIANS;:0CHILDREN CROSSING;:0MENS SYMBOL
:0WOMENS SYMBOL;:0RESTROOM;:0BABY SYMBOL;:0TOILET;:0WATER CLOSET;:0SHOWER;:0BATH;:0BATHTUB
:0PASSPORT CONTROL;:0CUSTOMS;:0BAGGAGE CLAIM;:0LEFT LUGGAGE;:0TRIANGLE WITH ROUNDED CORNERS
:0PROHIBITED SIGN;:0CIRCLED INFORMATION SOURCE;:0BOYS SYMBOL;:0GIRLS SYMBOL;:0COUCH AND LAMP
:0SLEEPING ACCOMMODATION;:0SHOPPING BAGS;:0BELLHOP BELL;:0BED;:0PLACE OF WORSHIP;:0OCTAGONAL SIGN
:0SHOPPING TROLLEY;:0STUPA;:0PAGODA;:0HINDU TEMPLE;:0HUT;:0ELEVATOR;1f6dd:0PLAYGROUND SLIDE
:0WHEEL;:0RING BUOY;:0HAMMER AND WRENCH;:0SHIELD;:0OIL DRUM;:0MOTORWAY;:0RAILWAY TRACK
:0MOTOR BOAT;:0UP-POINTING MILITARY AIRPLANE;:1AIRPLANE;:1SMALL AIRPLANE;:0SMALL AIRPLANE
:0NORTHEAST-POINTING AIRPLANE;:0AIRPLANE DEPARTURE;:1ARRIVING;1f6f0:0SATELLITE
:0ONCOMING FIRE ENGINE;:0DIESEL LOCOMOTIVE;:0PASSENGER SHIP;:0SCOOTER;:0MOTOR SCOOTER;:0CANOE
:0SLED;:0FLYING SAUCER;:0SKATEBOARD;:0AUTO RICKSHAW;:0PICKUP TRUCK;:0ROLLER SKATE
1f7e0:0LARGE ORANGE CIRCLE;:1YELLOW CIRCLE;:1GREEN CIRCLE;:1PURPLE CIRCLE;:1BROWN CIRCLE
:1RED SQUARE;:1BLUE SQUARE;:1ORANGE SQUARE;:1YELLOW SQUARE;:1GREEN SQUARE;:1PURPLE SQUARE
:1BROWN SQUARE;1f90c:0PINCHED FINGERS;:0WHITE HEART;:0BROWN HEART;:0PINCHING HAND
:0ZIPPER-MOUTH FACE;:0MONEY-MOUTH FACE;:0FACE WITH THERMOMETER;:0NERD FACE;:0THINKING FACE
:0FACE WITH HEAD-BANDAGE;:0ROBOT FACE;:0HUGGING FACE;:0SIGN OF THE HORNS;:0CALL ME HAND
:0RAISED BACK OF HAND;:0LEFT-FACING FIST;:0RIGHT-FACING FIST;:0HANDSHAKE
:0HAND WITH INDEX AND MIDDLE FINGERS CROSSED;:0I LOVE YOU HAND SIGN;:0FACE WITH COWBOY HAT
:0CLOWN FACE;:0NAUSEATED FACE;:0ROLLING ON THE FLOOR LAUGHING;:0DROOLING FACE;:0LYING FACE
:0FACE PALM;:0SNEEZING FACE;:0FACE WITH ONE EYEBROW RAISED;:0GRINNING FACE WITH STAR EYES
:3ONE LARGE AND ONE SMALL EYE;:0FACE WITH FINGER COVERING CLOSED LIPS
:0SERIOUS FACE WITH SYMBOLS COVERING MOUTH
:0SMILING FACE WITH SMILING EYES AND HAND COVERING MOUTH;:0FACE WITH OPEN MOUTH VOMITING
:0SHOCKED FACE WITH EXPLODING HEAD;:0PREGNANT WOMAN;:0BREAST-FEEDING;:0PALMS UP TOGETHER;:0SELFIE
:0PRINCE;:0MAN IN TUXEDO;:0MOTHER CHRISTMAS;:0SHRUG;:0PERSON DOING CARTWHEEL;:0JUGGLING;:0FENCER
:0MODERN PENTATHLON;:0WRESTLERS;:0WATER POLO;:0HANDBALL;:0DIVING MASK;:0WILTED FLOWER
:0DRUM WITH DRUMSTICKS;:0CLINKING GLASSES;:0TUMBLER GLASS;:0SPOON;:0GOAL NET;:0RIFLE
:0FIRST PLACE MEDAL;:0SECOND PLACE MEDAL;:0THIRD PLACE MEDAL;:0BOXING GLOVE
:0MARTIAL ARTS UNIFORM;:0CURLING STONE;:0LACROSSE STICK AND BALL;:0SOFTBALL;:0FLYING DISC
:0CROISSANT;:0AVOCADO;:0CUCUMBER;:0BACON;:0POTATO;:0CARROT;:0BAGUETTE BREAD;:0GREEN SALAD
:0SHALLOW PAN OF FOOD;:0STUFFED FLATBREAD;:0EGG;:0GLASS OF MILK;:0PEANUTS;:0KIWIFRUIT;:0PANCAKES
:0DUMPLING;:0FORTUNE COOKIE;:0TAKEOUT BOX;:0CHOPSTICKS;:0BOWL WITH SPOON;:0CUP WITH STRAW
:0COCONUT;:0BROCCOLI;:0PIE;:0PRETZEL;:0CUT OF MEAT;:0SANDWICH;:0CANNED FOOD;:0LEAFY GREEN;:0MANGO
:0MOON CAKE;:0BAGEL;:0SMILING FACE WITH SMILING EYES AND THREE HEARTS;:0YAWNING FACE
:0SMILING FACE WITH TEAR;:0FACE WITH PARTY HORN AND PARTY HAT;:2UNEVEN EYES AND WAVY MOUTH
:0OVERHEATED FACE;:0FREEZING FACE;:0NINJA;:0DISGUISED FACE;:0FACE HOLDING BACK TEARS
:1WITH PLEADING EYES;:0SARI;:0LAB COAT;:0GOGGLES;:0HIKING BOOT;:0FLAT SHOE;:0CRAB;:0LION FACE
:0SCORPION;:0TURKEY;:0UNICORN FACE;:0EAGLE;:0DUCK;:0BAT;:0SHARK;:0OWL;:0FOX FACE;:0BUTTERFLY
:0DEER;:0GORILLA;:0LIZARD;:0RHINOCEROS;:0SHRIMP;:0SQUID;:0GIRAFFE FACE;:0ZEBRA FACE;:0HEDGEHOG
:0SAUROPOD;:0T-REX;:0CRICKET;:0KANGAROO;:0LLAMA;:0PEACOCK;:0HIPPOPOTAMUS;:0PARROT;:0RACCOON
:0LOBSTER;:0MOSQUITO;:0MICROBE;:0BADGER;:0SWAN;:0MAMMOTH;:0DODO;:0SLOTH;:0OTTER;:0ORANGUTAN
:0SKUNK;:0FLAMINGO;:0OYSTER;:0BEAVER;:0BISON;:0SEAL;:0GUIDE DOG;:0PROBING CANE
:0EMOJI COMPONENT RED HAIR;:2CURLY HAIR;:2BALD;:2WHITE HAIR;:0BONE;:0LEG;:0FOOT;:0TOOTH
:0SUPERHERO;:0SUPERVILLAIN;:0SAFETY VEST;:0EAR WITH HEARING AID;:0MOTORIZED WHEELCHAIR
:0MANUAL WHEELCHAIR;:0MECHANICAL ARM;:1LEG;:0CHEESE WEDGE;:0CUPCAKE;:0SALT SHAKER;:0BEVERAGE BOX
:0GARLIC;:0ONION;:0FALAFEL;:0WAFFLE;:0BUTTER;:0MATE DRINK;:0ICE CUBE;:0BUBBLE TEA;:0TROLL
:0STANDING PERSON;:0KNEELING PERSON;:0DEAF PERSON;:0FACE WITH MONOCLE;:0ADULT;:0CHILD
:0OLDER ADULT;:0BEARDED PERSON;:0PERSON WITH HEADSCARF;:1IN STEAMY ROOM;:1CLIMBING
:1IN LOTUS POSITION;:0MAGE;:0FAIRY;:0VAMPIRE;:0MERPERSON;:0ELF;:0GENIE;:0ZOMBIE;:0BRAIN
:0ORANGE HEART;:0BILLED CAP;:0SCARF;:0GLOVES;:0COAT;:0SOCKS;:0RED GIFT ENVELOPE;:0FIRECRACKER
:0JIGSAW PUZZLE PIECE;:0TEST TUBE;:0PETRI DISH;:0DNA DOUBLE HELIX;:0COMPASS;:0ABACUS
:0FIRE EXTINGUISHER;:0TOOLBOX;:0BRICK;:0MAGNET;:0LUGGAGE;:0LOTION BOTTLE;:0SPOOL OF THREAD
:0BALL OF YARN;:0SAFETY PIN;:0TEDDY BEAR;:0BROOM;:0BASKET;:0ROLL OF PAPER;:0BAR OF SOAP;:0SPONGE
:0RECEIPT;:0NAZAR AMULET;1fa70:0BALLET SHOES;:0ONE-PIECE SWIMSUIT;:0BRIEFS;:0SHORTS
:0THONG SANDAL;1fa78:0DROP OF BLOOD;:0ADHESIVE BANDAGE;:0STETHOSCOPE;:0X-RAY;:0CRUTCH
1fa80:0YO-YO;:0KITE;:0PARACHUTE;:0BOOMERANG;:0MAGIC WAND;:0PINATA;:0NESTING DOLLS
1fa90:0RINGED PLANET;:0CHAIR;:0RAZOR;:0AXE;:0DIYA LAMP;:0BANJO;:0MILITARY HELMET;:0ACCORDION
:0LONG DRUM;:0COIN;:0CARPENTRY SAW;:0SCREWDRIVER;:0LADDER;:0HOOK;:0MIRROR;:0WINDOW;:0PLUNGER
:0SEWING NEEDLE;:0KNOT;:0BUCKET;:0MOUSE TRAP;:0TOOTHBRUSH;:0HEADSTONE;:0PLACARD;:0ROCK
:0MIRROR BALL;:0IDENTIFICATION CARD;:0LOW BATTERY;:0HAMSA;1fab0:0FLY;:0WORM;:0BEETLE;:0COCKROACH
:0POTTED PLANT;:0WOOD;:0FEATHER;:0LOTUS;:0CORAL;:0EMPTY NEST;:0NEST WITH EGGS
1fac0:0ANATOMICAL HEART;:0LUNGS;:0PEOPLE HUGGING;:0PREGNANT MAN;:1PERSON;:0PERSON WITH CROWN
1fad0:0BLUEBERRIES;:0BELL PEPPER;:0OLIVE;:0FLATBREAD;:0TAMALE;:0FONDUE;:0TEAPOT;:0POURING LIQUID
:0BEANS;:0JAR;1fae0:0MELTING FACE;:0SALUTING FACE;:0FACE WITH OPEN EYES AND HAND OVER MOUTH
:2PEEKING EYE;:2DIAGONAL MOUTH;:0DOTTED LINE FACE;:0BITING LIP;:0BUBBLES
1faf0:0HAND WITH INDEX FINGER AND THUMB CROSSED;:0RIGHTWARDS HAND;:0LEFTWARDS HAND
:0PALM DOWN HAND;:1UP HAND;:0INDEX POINTING AT THE VIEWER;:0HEART HANDS"

/-- Other names of characters, of those without a name of their own among them. -/
def otherNames : String :=
  "0:0NULL;0:0NUL;1:0START OF HEADING;1:0SOH;2:0START OF TEXT;2:0STX;3:0END OF TEXT;3:0ETX
4:0END OF TRANSMISSION;4:0EOT;5:0ENQUIRY;5:0ENQ;6:0ACKNOWLEDGE;6:0ACK;7:0ALERT;7:0BEL
8:0BACKSPACE;8:0BS;9:0CHARACTER TABULATION;9:0HORIZONTAL TABULATION;9:0HT;9:0TAB;a:0LINE FEED
a:0NEW LINE;a:0END OF LINE;a:0LF;a:0NL;a:0EOL;b:0LINE TABULATION;b:0VERTICAL TABULATION;b:0VT
c:0FORM FEED;c:0FF;d:0CARRIAGE RETURN;d:0CR;e:0SHIFT OUT;e:0LOCKING-SHIFT ONE;e:0SO;f:0SHIFT IN
f:0LOCKING-SHIFT ZERO;f:0SI;10:0DATA LINK ESCAPE;10:0DLE;11:0DEVICE CONTROL ONE;11:0DC1
12:0DEVICE CONTROL TWO;12:0DC2;13:0DEVICE CONTROL THREE;13:0DC3;14:0DEVICE CONTROL FOUR;14:0DC4
15:0NEGATIVE ACKNOWLEDGE;15:0NAK;16:0SYNCHRONOUS IDLE;16:0SYN;17:0END OF TRANSMISSION BLOCK
17:0ETB;18:0CANCEL;18:0CAN;19:0END OF MEDIUM;19:0EOM;1a:0SUBSTITUTE;1a:0SUB;1b:0ESCAPE;1b:0ESC
1c:0INFORMATION SEPARATOR FOUR;1c:0FILE SEPARATOR;1c:0FS;1d:0INFORMATION SEPARATOR THREE
1d:0GROUP SEPARATOR;1d:0GS;1e:0INFORMATION SEPARATOR TWO;1e:0RECORD SEPARATOR;1e:0RS
1f:0INFORMATION SEPARATOR ONE;1f:0UNIT SEPARATOR;1f:0US;20:0SP;7f:0DELETE;7f:0DEL
80:0PADDING CHARACTER;80:0PAD;81:0HIGH OCTET PRESET;81:0HOP;82:0BREAK PERMITTED HERE;82:0BPH
83:0NO BREAK HERE;83:0NBH;84:0INDEX;84:0IND;85:0NEXT LINE;85:0NEL;86:0START OF SELECTED AREA
86:0SSA;87:0END OF SELECTED AREA;87:0ESA;8d:0REVERSE LINE FEED;8d:0REVERSE INDEX;8d:0RI
8e:0SINGLE SHIFT TWO;8e:0SINGLE-SHIFT-2;8e:0SS2;8f:0SINGLE SHIFT THREE;8f:0SINGLE-SHIFT-3;8f:0SS3
90:0DEVICE CONTROL STRING;90:0DCS;9b:0CONTROL SEQUENCE INTRODUCER;9b:0CSI;9c:0STRING TERMINATOR
9c:0ST;9d:0OPERATING SYSTEM COMMAND;9d:0OSC;9e:0PRIVACY MESSAGE;9e:0PM
9f:0APPLICATION PROGRAM COMMAND;9f:0APC;a0:0NBSP;ad:0SHY;1a2:0LATIN CAPITAL LETTER GHA
1a3:0LATIN SMALL LETTER GHA;34f:0CGJ;200b:0ZWSP;200c:0ZWNJ;200d:0ZWJ;200e:0LRM;200f:0RLM
202a:0LRE;202b:0RLE;202c:0PDF;202d:0LRO;202e:0RLO;202f:0NNBSP;205f:0MMSP;2060:0WJ;2066:0LRI
2067:0RLI;2068:0FSI;2069:0PDI;2118:0WEIERSTRASS ELLIPTIC FUNCTION;fe0e:0VS15;fe0f:0VS16;fe00:0VS1
feff:0BYTE ORDER MARK;feff:0BOM;feff:0ZWNBSP"

end Table

end Text

end Workflow
